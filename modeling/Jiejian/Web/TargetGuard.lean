import Jiejian.Library.Outcome
import Jiejian.Library.Urls
import Jiejian.Web.Rendering

namespace Jiejian.Web.TargetGuard

open Library Library.Outcome Library.Urls Errors Rendering

/-- The forms of Unicode texts that hosts are compared in. -/
structure HostForms where
  nfkc : List Char → List Char
  lower : List Char → List Char

/-- `WebTargetScope`. -/
structure TargetScope where
  baseUrl : List Char
  allowedOrigins : List (List Char)
  allowedHosts : List (List Char)
  allowedPorts : List Nat
  allowPrivateNetwork : Bool
  maxResponseBytes : Nat

structure WebTargetGuard where
  scope : TargetScope
  reservedOrigins : List (List Char)

structure AuthorizedTarget where
  url : List Char
  host : List Char
  port : Nat
  address : Nat
  deriving DecidableEq, Repr

section Places

/-- `parsed.hostname`. -/
def hostname (lower : List Char → List Char) (netloc : List Char) : Option (List Char) :=
  let place := afterLast '@' netloc
  let host :=
    if '[' ∈ place then ((place.dropWhile (· ≠ '[')).drop 1).takeWhile (· ≠ ']') else place.takeWhile (· ≠ ':')
  if host = [] then none else some (lower (host.takeWhile (· ≠ '%')) ++ host.dropWhile (· ≠ '%'))

/-- The text of `parsed.port`. -/
def portText (netloc : List Char) : List Char :=
  let place := afterLast '@' netloc
  let rest := if '[' ∈ place then (place.dropWhile (· ≠ ']')).drop 1 else place
  (rest.dropWhile (· ≠ ':')).drop 1

/-- `parsed.port`; nothing when there is none, and an error when it is no port. -/
def port (netloc : List Char) : Except Unit (Option Nat) :=
  let text := portText netloc
  if text = [] then .ok none
  else if text.all Char.isDigit = true ∧ decimal text ≤ 65535 then .ok (some (decimal text))
  else .error ()

/-- The address lies in the network with so many leading bits. -/
def inNetwork (address : Nat) (network : Nat × Nat × Nat × Nat × Nat) : Bool :=
  let (first, second, third, fourth, bits) := network
  address / 2 ^ (32 - bits) = (((first * 256 + second) * 256 + third) * 256 + fourth) / 2 ^ (32 - bits)

def metadataNetworks : List (Nat × Nat × Nat × Nat × Nat) := [(169, 254, 169, 254, 32), (100, 100, 100, 200, 32)]

/-- The link-local, multicast, reserved and unspecified addresses. -/
def specialNetworks : List (Nat × Nat × Nat × Nat × Nat) :=
  [(169, 254, 0, 0, 16), (224, 0, 0, 0, 4), (240, 0, 0, 0, 4), (0, 0, 0, 0, 32)]

def privateNetworks : List (Nat × Nat × Nat × Nat × Nat) :=
  [(0, 0, 0, 0, 8), (10, 0, 0, 0, 8), (127, 0, 0, 0, 8), (169, 254, 0, 0, 16), (172, 16, 0, 0, 12), (192, 0, 0, 0, 24),
    (192, 0, 0, 170, 31), (192, 0, 2, 0, 24), (192, 168, 0, 0, 16), (198, 18, 0, 0, 15), (198, 51, 100, 0, 24),
    (203, 0, 113, 0, 24), (240, 0, 0, 0, 4), (255, 255, 255, 255, 32)]

def privateExceptions : List (Nat × Nat × Nat × Nat × Nat) := [(192, 0, 0, 9, 32), (192, 0, 0, 10, 32)]

def sharedNetwork : Nat × Nat × Nat × Nat × Nat := (100, 64, 0, 0, 10)

def explicitPrivateNetworks : List (Nat × Nat × Nat × Nat × Nat) :=
  [(10, 0, 0, 0, 8), (172, 16, 0, 0, 12), (192, 168, 0, 0, 16), (127, 0, 0, 0, 8)]

/-- `address.is_global`. -/
def isGlobal (address : Nat) : Bool :=
  !inNetwork address sharedNetwork &&
    !(privateNetworks.any (inNetwork address) && !privateExceptions.any (inNetwork address))

end Places

def scopeError (code : ErrorCode) (message : String) : Failure := .stable ⟨code, message⟩

/-- The checks of a URL that is taken apart. -/
def authorizeSplit (guard : WebTargetGuard) (forms : HostForms) (url : List Char) (parsed : SplitUrl) :
    Except Failure AuthorizedTarget := do
  require (["http".toList, "https".toList].contains parsed.scheme = true) (scopeError .SCOPE_URL "只允许 HTTP 或 HTTPS 目标")
  require ('@' ∉ parsed.netloc) (scopeError .SCOPE_URL "目标 URL 不得包含用户信息")
  let named ← orRaise (hostname forms.lower parsed.netloc) (scopeError .SCOPE_URL "目标 URL 缺少主机")
  let given ← (port parsed.netloc).mapError fun _ => scopeError .SCOPE_PORT "目标端口无效"
  let port := (given.filter (· ≠ 0)).getD (if parsed.scheme = "https".toList then 443 else 80)
  let host := forms.lower named
  require (guard.scope.allowedHosts.contains host = true) (scopeError .SCOPE_HOST "目标主机不在授权范围")
  require (port ∈ guard.scope.allowedPorts) (scopeError .SCOPE_PORT "目标端口不在授权范围")
  let origin := parsed.scheme ++ "://".toList ++ host ++ ':' :: (toString port).toList
  require (guard.reservedOrigins.contains origin = false) (scopeError .SELF_TARGET_FORBIDDEN "执行目标不得指向界鉴自身服务")
  require (guard.scope.allowedOrigins.contains origin = true) (scopeError .SCOPE_HOST "目标 origin 不在授权范围")
  let address ← orRaise (ipv4Address host) (scopeError .SCOPE_HOST "可执行目标必须使用 IPv4 字面量")
  require (metadataNetworks.any (inNetwork address) = false ∧ specialNetworks.any (inNetwork address) = false)
    (scopeError .SCOPE_PRIVATE_NETWORK "目标地址属于禁止访问的本地或元数据范围")
  require (isGlobal address = true ∨
      (guard.scope.allowPrivateNetwork = true ∧ explicitPrivateNetworks.any (inNetwork address) = true))
    (scopeError .SCOPE_PRIVATE_NETWORK "目标地址不属于显式允许的公网、私网或环回范围")
  return ⟨url, host, port, address⟩

def invalidUrl : Failure := .raised (.ValueError "Invalid IPv6 URL")

/-- `authorize_url`. -/
def authorizeUrl (guard : WebTargetGuard) (forms : HostForms) (url : List Char) : Except Failure AuthorizedTarget := do
  let parsed ← orRaise (urlsplit forms.nfkc url []) invalidUrl
  authorizeSplit guard forms url parsed

/-- A refused redirect is told as one; an exception of the language is not caught. -/
def asRedirect : Failure → Failure
  | .stable _ => scopeError .SCOPE_REDIRECT "响应重定向目标越出授权范围"
  | failure => failure

/-- `authorize_redirect`. -/
def authorizeRedirect (guard : WebTargetGuard) (forms : HostForms) (current location : List Char) :
    Except Failure AuthorizedTarget :=
  (do
    let url ← orRaise (urljoin forms.nfkc current location) invalidUrl
    authorizeUrl guard forms url).mapError asRedirect

end Jiejian.Web.TargetGuard
