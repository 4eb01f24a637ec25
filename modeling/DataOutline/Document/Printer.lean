import DataOutline.Document.Basic

/-!
# Documents as text

A header is followed by one line break and every other block by two, so that one empty line stands
behind each block; nothing follows the last one. A section prints the same whether its values are
compiled or not, since each keeps its text.
-/

namespace DataOutline

variable {U : Type}

/-- A block of a printed document and the number of line breaks behind it. -/
structure Piece where
  content : String
  breaks : Nat
deriving DecidableEq, Repr

/-- Pieces in a row, without the line breaks behind the last. -/
def Piece.render : List Piece → String
  | [] => ""
  | [p] => p.content
  | p :: ps => p.content ++ "".pushn '\n' p.breaks ++ render ps

/-- Fenced code between its fences. An empty block has no line between them. -/
def fenced (language : String) (block : Block) : String :=
  "```" ++ language ++ "\n" ++ (if 2 < block.span.size then block.content ++ "\n" else "") ++ "```"

mutual

def Node.pieces : Node U → List Piece
  | .subsection header children => ⟨header.content, 1⟩ :: Node.piecesAll children
  | .text block => [⟨block.content, 2⟩]
  | .code language block => [⟨fenced language block, 2⟩]
  | .value tree => [⟨tree.block.content, 2⟩]

def Node.piecesAll : List (Node U) → List Piece
  | [] => []
  | n :: ns => n.pieces ++ Node.piecesAll ns

end

/-- The text of a section and of those below it. -/
def Section.print (s : Section U) : String :=
  Piece.render (⟨s.header.content, 1⟩ :: Node.piecesAll s.children)

end DataOutline
