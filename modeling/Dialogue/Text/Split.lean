namespace Dialogue.Text

def linesWithEnds : List Char → List (List Char)
  | [] => []
  | c :: rest =>
    if c = '\n' then [c] :: linesWithEnds rest
    else match linesWithEnds rest with
      | line :: lines => (c :: line) :: lines
      | [] => [[c]]

def withoutEnd (cs : List Char) : List Char :=
  match cs.reverse with
  | '\n' :: '\r' :: rest => rest.reverse
  | '\n' :: rest => rest.reverse
  | _ => cs

/-- A text that starts with a nonempty text is longer than what follows that start. -/
theorem length_drop_lt {start cs : List Char} (h : start ≠ [] ∧ start.isPrefixOf cs) :
    (cs.drop start.length).length < cs.length := by
  have hlen : 0 < start.length := List.length_pos_iff.2 h.1
  have hle := (List.isPrefixOf_iff_prefix.1 h.2).length_le
  simp only [List.length_drop]
  omega

def dropCopies (start : List Char) (cs : List Char) : List Char :=
  if _ : start ≠ [] ∧ start.isPrefixOf cs then dropCopies start (cs.drop start.length) else cs
termination_by cs.length
decreasing_by exact length_drop_lt ‹_›

end Dialogue.Text
