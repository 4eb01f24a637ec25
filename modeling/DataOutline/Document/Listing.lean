import DataOutline.Document.Basic
import DataOutline.Json.Printer
import DataOutline.Text.Display

/-!
# Listings of documents

A listing shows every part of a document with its fields. It is set out in lines: what a record, a
variant or a list holds stands indented between its brackets, each part on lines of its own with a
comma behind it. Texts are quoted, and what a terminal does not show is given by its code point.
-/

namespace DataOutline

/-- What a listing shows: a word or a number as it is, a record with named fields, a variant around
one part, or a list. -/
inductive Listing where
  | word (text : List Char)
  | record (name : String) (fields : List (String × Listing))
  | variant (name : String) (part : Listing)
  | list (parts : List Listing)

namespace Listing

/-- A character as it stands in a quoted text. -/
def escapeChar (c : Char) : List Char :=
  match c with
  | '\x00' => ['\\', '0']
  | '\t' => ['\\', 't']
  | '\r' => ['\\', 'r']
  | '\n' => ['\\', 'n']
  | '"' => ['\\', '"']
  | '\\' => ['\\', '\\']
  | c =>
    if Text.isShown c then [c]
    else '\\' :: 'u' :: '\x7b' :: (Nat.toDigits 16 c.toNat ++ ['\x7d'])

def quoted (text : String) : Listing :=
  .word ('"' :: (text.toList.flatMap escapeChar ++ ['"']))

def number (n : Nat) : Listing := .word (Nat.toDigits 10 n)

/-- The line break before a part at a depth. -/
def margin (depth : Nat) : List Char := '\n' :: List.replicate (4 * depth) ' '

/-- Parts between brackets at a depth, each on lines of its own. Without parts the brackets stand
together. -/
def enclose (opening closing : Char) (depth : Nat) (parts : List (List Char)) : List Char :=
  if parts.isEmpty then [opening, closing]
  else
    opening :: (parts.flatMap (fun part => margin (depth + 1) ++ part ++ [',']) ++
      margin depth ++ [closing])

mutual

/-- The text of a listing that stands at a depth. -/
def text (depth : Nat) : Listing → List Char
  | .word text => text
  | .record name fields =>
    name.toList ++ ' ' :: enclose '\x7b' '\x7d' depth (fieldTexts (depth + 1) fields)
  | .variant name part =>
    name.toList ++ enclose '(' ')' depth [text (depth + 1) part]
  | .list parts => enclose '[' ']' depth (texts (depth + 1) parts)

def texts (depth : Nat) : List Listing → List (List Char)
  | [] => []
  | part :: parts => text depth part :: texts depth parts

/-- The texts of fields, each behind its name. -/
def fieldTexts (depth : Nat) : List (String × Listing) → List (List Char)
  | [] => []
  | (name, part) :: fields =>
    (name.toList ++ ':' :: ' ' :: text depth part) :: fieldTexts depth fields

end

end Listing

variable {U : Type}

/-- The record of a value, given the listing of what it is. -/
def Block.listValue (block : Block) (kind : Listing) : Listing :=
  .record "Value" [("line", .number block.span.line), ("size", .number block.span.size),
    ("content", .quoted block.content), ("kind", kind)]

mutual

def ValueTree.list : ValueTree U → Listing
  | .array block unordered elements =>
    block.listValue (.record "Array" [("elements", .list (ValueTree.listAll elements)),
      ("unordered", .word (toString unordered).toList)])
  | .object block entries =>
    block.listValue (.record "Object" [("keys", .list (ValueTree.listKeys entries))])
  | .mixin block base removals additions =>
    block.listValue (.record "Mixin" [("base", .quoted base),
      ("removals", .list (removals.map .quoted)),
      ("additions", .list (ValueTree.listKeys additions))])
  | .expression block code => block.listValue (.record "Expression" [("code", .quoted code)])
  | .compiled block _ => block.listValue (.variant "Compiled" (.word "Compiled(..)".toList))

def ValueTree.listAll : List (ValueTree U) → List Listing
  | [] => []
  | t :: ts => t.list :: ValueTree.listAll ts

def ValueTree.listKeys : List (String × ValueTree U) → List Listing
  | [] => []
  | (name, t) :: es =>
    .record "Key" [("name", .quoted name), ("value", t.list)] :: ValueTree.listKeys es

end

/-- The record of a section, given the listings of its children. -/
def Header.listSection (h : Header) (children : List Listing) : Listing :=
  .record "Section" [("name", .quoted h.name), ("level", .number h.level), ("line", .number h.line),
    ("content", .quoted h.content), ("children", .list children)]

mutual

def Node.list : Node U → Listing
  | .subsection header children =>
    .variant "Section" (header.listSection (Node.listAll children))
  | .text block =>
    .variant "Text" (.record "Text" [("content", .quoted block.content),
      ("line", .number block.span.line), ("size", .number block.span.size)])
  | .code language block =>
    .variant "Code" (.record "Code" [("language", .quoted language),
      ("content", .quoted block.content), ("line", .number block.span.line),
      ("size", .number block.span.size)])
  | .value tree => .variant "Value" tree.list

def Node.listAll : List (Node U) → List Listing
  | [] => []
  | n :: ns => n.list :: Node.listAll ns

end

/-- The listing of a section, as a text. -/
def Section.listing (s : Section U) : String :=
  String.ofList ((s.header.listSection (Node.listAll s.children)).text 0)

end DataOutline
