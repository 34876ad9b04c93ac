import Rollback.Text.Numeral
import Rollback.Text.Split
import Rollback.Text.Utf8

/-! The place on a server that a request is for: a path and a query. Names go into the text of a request
as they are, so a question mark in one begins the query and a hash sign cuts the text off. -/
namespace Rollback

/-- A path with the keys and values of the query after it. -/
structure Location where
  path : String
  query : List (String × String)
  deriving DecidableEq, Repr, Inhabited

namespace Location

/-- Whether a character has a place in one of the inclusive ranges. -/
def isIn (ranges : List (Nat × Nat)) (c : Char) : Bool :=
  ranges.any fun (first, last) => first ≤ c.toNat && c.toNat ≤ last

/-- A character that may stand in a path: no blank, no control character, no angle bracket, no
backquote. -/
def isPathChar (c : Char) : Bool :=
  c == '"' || c == '{' || c == '}'
    || isIn [(0x21, 0x21), (0x24, 0x3B), (0x3D, 0x3D), (0x40, 0x5F), (0x61, 0x7A), (0x7C, 0x7C),
      (0x7E, 0x10FFFF)] c

def isQueryChar (c : Char) : Bool :=
  isIn [(0x21, 0x21), (0x24, 0x3B), (0x3D, 0x3D), (0x3F, 0x10FFFF)] c

/-- The octets of a part of a query: a plus sign is a space, and a percent sign with two digits is one
octet. -/
def octets : List Char → List UInt8
  | '%' :: a :: b :: rest =>
    match Text.digits? 16 [a, b] with
    | some n => n.toUInt8 :: octets rest
    | none => '%'.toNat.toUInt8 :: octets (a :: b :: rest)
  | '+' :: rest => ' '.toNat.toUInt8 :: octets rest
  | c :: rest => Text.encode (String.singleton c) ++ octets rest
  | [] => []

def partText (cs : List Char) : String :=
  let bytes := octets cs
  String.ofList (Text.decodeLossy (bytes.length + 1) bytes)

def pairs (query : List Char) : List (String × String) :=
  ((Text.pieces '&' query).filter (!·.isEmpty)).map fun pair =>
    match Text.cutChars '=' pair with
    | some (key, value) => (partText key, partText value)
    | none => (partText pair, "")

/-- The place that a request text means; none if a character may not stand in it. The parameters come
after the query of the text, unless a hash sign cuts them off. -/
def read (text : String) (params : List (String × String)) : Option Location :=
  let cs := text.toList
  let path := cs.takeWhile fun c => c != '?' && c != '#'
  if !path.all isPathChar then none
  else
    match cs.drop path.length with
    | '?' :: rest =>
      let query := rest.takeWhile (· != '#')
      if !query.all isQueryChar then none
      else
        let cut := query.length < rest.length
        some ⟨String.ofList path, pairs query ++ if cut then [] else params⟩
    | '#' :: _ => some ⟨String.ofList path, []⟩
    | _ => some ⟨String.ofList path, params⟩

end Location

def resourcePath (group apiVersion plural : String) (ns? : Option String) : String :=
  let root := if group = "" then "/api/" else "/apis/"
  let inside := match ns? with
    | some ns => "namespaces/" ++ ns ++ "/"
    | none => ""
  root ++ apiVersion ++ "/" ++ inside ++ plural

end Rollback
