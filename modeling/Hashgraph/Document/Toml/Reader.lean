import Hashgraph.Document.Toml.Key
import Hashgraph.Document.Toml.Scalar
import Hashgraph.Document.Toml.Tree

/-! Reading TOML documents, version 1.0. -/

namespace Hashgraph.Toml

def depthLimit : Nat := 80

def readKey (text : List Char) : Option (List String × List Char) :=
  (readNames (text.length + 1) text).filter fun (names, _) => names.length < depthLimit

def skipComment (text : List Char) : List Char :=
  match text with
  | '#' :: rest => rest.dropWhile isPlain
  | text => text

def endLine? (text : List Char) : Option (List Char) :=
  match skipComment (skipSpaces text) with
  | [] => some []
  | text => lineEnd? text

def skipFiller : Nat → List Char → List Char
  | 0, text => text
  | fuel + 1, text =>
      let text := skipComment (skipSpaces text)
      match lineEnd? text with
      | some rest => skipFiller fuel rest
      | none => text

mutual

def readValue : Nat → Nat → List Char → Option (Document × List Char)
  | 0, _, _ => none
  | fuel + 1, depth, text =>
      let isDeep := depthLimit ≤ depth + 1
      match text with
      | '"' :: _ => (readString? text).map fun (value, rest) => (.text value, rest)
      | '\'' :: _ => (readString? text).map fun (value, rest) => (.text value, rest)
      | '[' :: rest => if isDeep then none else readItems fuel (depth + 1) [] rest
      | '\x7b' :: rest =>
          if isDeep then none
          else
            match skipSpaces rest with
            | '\x7d' :: rest => some (.table [], rest)
            | rest => readInline fuel (depth + 1) Node.root rest
      | text => readScalar text

def readItems : Nat → Nat → List Document → List Char → Option (Document × List Char)
  | 0, _, _, _ => none
  | fuel + 1, depth, items, text =>
      match skipFiller text.length text with
      | ']' :: rest => some (.list items.reverse, rest)
      | text =>
          match readValue fuel depth text with
          | none => none
          | some (item, rest) =>
              match skipFiller rest.length rest with
              | ',' :: rest => readItems fuel depth (item :: items) rest
              | ']' :: rest => some (.list (item :: items).reverse, rest)
              | _ => none

def readInline : Nat → Nat → Node → List Char → Option (Document × List Char)
  | 0, _, _, _ => none
  | fuel + 1, depth, node, text =>
      match readKey text with
      | some (path, '=' :: rest) =>
          match readValue fuel depth (skipSpaces rest) with
          | none => none
          | some (value, rest) =>
              match node.insert path value, skipSpaces rest with
              | some node, ',' :: rest => readInline fuel depth node rest
              | some node, '\x7d' :: rest => some (node.toDocument, rest)
              | _, _ => none
      | _ => none

end

def readHeader (node : Node) (text : List Char) : Option ((List String × Node) × List Char) :=
  match text with
  | '[' :: rest =>
      match readKey rest with
      | some (path, ']' :: ']' :: rest) => (node.openSeries path).map fun node => ((path, node), rest)
      | _ => none
  | text =>
      match readKey text with
      | some (path, ']' :: rest) => (node.openTable path).map fun node => ((path, node), rest)
      | _ => none

def readPair (header : List String) (node : Node) (text : List Char) : Option (Node × List Char) :=
  match readKey text with
  | some (path, '=' :: rest) =>
      match readValue (2 * rest.length + 2) 0 (skipSpaces rest) with
      | some (value, rest) => (node.insertBelow header path value).map fun node => (node, rest)
      | none => none
  | _ => none

def readDocument : Nat → List String → Node → List Char → Option Node
  | 0, _, _, _ => none
  | fuel + 1, header, node, text =>
      match skipSpaces text with
      | [] => some node
      | '[' :: rest =>
          match readHeader node rest with
          | some ((header, node), rest) => (endLine? rest).bind (readDocument fuel header node)
          | none => none
      | text =>
          match endLine? text with
          | some rest => readDocument fuel header node rest
          | none =>
              match readPair header node text with
              | some (node, rest) => (endLine? rest).bind (readDocument fuel header node)
              | none => none

def read? (text : String) : Option Document :=
  let chars :=
    match text.toList with
    | '\ufeff' :: rest => rest
    | rest => rest
  (readDocument (chars.length + 1) [] Node.root chars).map Node.toDocument

end Hashgraph.Toml
