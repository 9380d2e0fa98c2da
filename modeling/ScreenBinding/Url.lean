import ScreenBinding.MethodTable
import ScreenBinding.Separators

/-!
# URLs of requests

Where a request goes. The entries of a method table may be relative to a base; the payload of a
`GET` becomes part of the query.
-/
namespace ScreenBinding.Url

def isAbsolute (url : String) : Bool := url.startsWith "http://" || url.startsWith "https://"

def dropTrailingSlashes (base : String) : String :=
  String.ofList (base.toList.reverse.dropWhile (· = '/')).reverse

/-- The URL behind `base`, unless it stands for itself. -/
def resolve (base url : String) : String :=
  let base := dropTrailingSlashes base
  if isAbsolute url || base = "" then url
  else if url.startsWith "/" then base ++ url
  else base ++ "/" ++ url

def isUnescaped (b : UInt8) : Bool :=
  let c := Char.ofNat b.toNat
  b < 0x80 && (c.isAlphanum || c = '*' || c = '-' || c = '.' || c = '_')

def upperHex (n : Nat) : Char := "0123456789ABCDEF".toList.getD n '0'

def encodeByte (b : UInt8) : List Char :=
  if b = 0x20 then ['+']
  else if isUnescaped b then [Char.ofNat b.toNat]
  else ['%', upperHex (b.toNat/16), upperHex (b.toNat % 16)]

/-- The encoding of form data: blanks become plus signs, all but a few bytes their code. -/
def encode (s : String) : String := String.ofList (s.toUTF8.toList.flatMap encodeByte)

/-- The fields of a payload that a query shows; `null` is left out. -/
def queryPairs : Json → List (String × String)
  | .object fields =>
      (fields.filter fun (_, v) => v matches .null |> not).map fun (k, v) =>
        (k, ({} : Separators).textOf v)
  | _ => []

def pairsText (pairs : List (String × String)) : String :=
  "&".intercalate (pairs.map fun (k, v) => encode k ++ "=" ++ encode v)

/-- An absolute URL in its parts; an empty path is a slash. -/
structure Parts where
  location : List Char
  query : Option (List Char)
  fragment : Option (List Char)

/-- Cuts a text at the first occurrence of `c`. -/
def cut (c : Char) : List Char → List Char × Option (List Char)
  | [] => ([], none)
  | d::s => if d = c then ([], some s) else let (l, r) := cut c s; (d::l, r)

/-- Adds the slash of an empty path. -/
def rooted (location : List Char) : List Char :=
  let authority := (location.dropWhile (· ≠ '/')).drop 2
  if authority.contains '/' then location else location ++ ['/']

def Parts.of (url : String) : Parts :=
  let (front, fragment) := cut '#' url.toList
  let (location, query) := cut '?' front
  ⟨rooted location, query, fragment⟩

def Parts.text (p : Parts) : String :=
  String.ofList (p.location ++ (p.query.map ('?'::·)).getD [] ++ (p.fragment.map ('#'::·)).getD [])

/-- Appends pairs to the query; a query that stays empty goes. -/
def Parts.append (p : Parts) (pairs : List (String × String)) : Parts :=
  let old := p.query.getD []
  let new := (pairsText pairs).toList
  let query := if old = [] then new else if new = [] then old else old ++ '&'::new
  { p with query := if query = [] then none else some query }

/-- The URL that a request with this payload asks for. -/
def requested (verb : Verb) (url : String) (data : Json) : String :=
  match verb with
  | .get => ((Parts.of url).append (queryPairs data)).text
  | .post => (Parts.of url).text

/-- Why a request does not get through where no server listens. -/
def refusal (base : String) (verb : Verb) (url : String) (data : Json) : TransportFault :=
  let target := resolve base url
  if isAbsolute target then
    .unreachable (target ++ ": error sending request for url (" ++ requested verb target data ++ ")")
  else .unreachable (target ++ ": builder error")

end ScreenBinding.Url
