import ClientGen.Yaml.Folding

/-! # Plain scalars

  Scalars without any mark. A plain scalar goes on over blanks and line breaks as long as the next
  line is indented deeply enough. It ends before a comment, before a colon that ends a word, before
  a document mark, and inside brackets before any of their marks. -/

namespace ClientGen.Yaml

/-- The marks that end a plain scalar inside brackets. -/
def isFlowMark (c : Char) : Bool :=
  c = ',' || c = '[' || c = ']' || c = '\x7b' || c = '\x7d'

/-- Whether a colon inside brackets stands in front of a mark, where it has no meaning. -/
def isStrayColon : List Char → Bool
  | ':' :: c :: _ => isFlowMark c || c = '?'
  | _ => false

/-- Whether a plain scalar ends before a character, whatever came before it. -/
def endsPlain (inFlow : Bool) : List Char → Bool
  | [] => true
  | c :: rest => (c = ':' && atWordEnd rest) || (inFlow && isFlowMark c)

/-- Whether a plain scalar ends at a character behind a gap. -/
def endsBehindGap (inFlow : Bool) (indent : Nat) (p : Place) (cs : List Char) : Bool :=
  (!inFlow && p.column < indent) || atDocumentMark p cs || cs.head? = some '#'

/-- Reads a plain scalar of which `text` was read, last one first. -/
def plainFrom (inFlow : Bool) (indent : Nat) (p : Place) (text : List Char) (gap : Gap) :
    List Char → Option ScalarEnd
  | [] => some ⟨text.reverse, p, [], gap.isBroken⟩
  | c :: rest =>
    if isGap c then
      -- Tabs do not indent a line.
      if gap.isBroken && p.column < indent && c = '\t' then none
      else plainFrom inFlow indent (p.behind c) text (gap.add c) rest
    else if gap ≠ .empty && endsBehindGap inFlow indent p (c :: rest) then
      some ⟨text.reverse, p, c :: rest, gap.isBroken⟩
    -- Such a colon neither goes on with the scalar nor ends it.
    else if inFlow && isStrayColon (c :: rest) then none
    else if endsPlain inFlow (c :: rest) then some ⟨text.reverse, p, c :: rest, gap.isBroken⟩
    else plainFrom inFlow indent (p.behind c) (c :: (gap.text.reverse ++ text)) .empty rest

/-- Reads a plain scalar whose further lines are indented by at least `indent`. -/
def plain? (inFlow : Bool) (indent : Nat) (p : Place) (cs : List Char) : Option ScalarEnd :=
  plainFrom inFlow indent p [] .empty cs

end ClientGen.Yaml
