import ArgHints.Interpreter
import ArgHints.Proofs.Text.Blank

namespace ArgHints.Interpreter

open Text (AllBlank Trimmed SinglySpaced isBlank squeeze trim)

theorem unwrap_parenthesised (body : List Char) : unwrap ('(' :: (body ++ [')'])) = body := by
  have last : ('(' :: (body ++ [')'])).getLast? = some ')' := by
    rw [← List.cons_append, List.getLast?_concat]
  rw [unwrap, List.head?_cons, last, if_pos (by decide), List.tail_cons, List.dropLast_concat]

theorem trimmed_parenthesised {front : List Char} (first : ∀ c ∈ front.head?, isBlank c = false)
    (body : List Char) : Trimmed (front ++ '(' :: (body ++ [')'])) := by
  constructor
  · cases front with
    | nil =>
        rintro c ⟨⟩
        decide
    | cons d rest => exact first
  · rw [← List.cons_append, ← List.append_assoc, List.getLast?_concat]
    rintro c ⟨⟩
    decide

theorem argumentList_eq_collapse {before between behind : List Char} (blank : AllBlank before)
    (blank' : AllBlank between) (blank'' : AllBlank behind) (body : List Char) :
    argumentList (before ++ functionWord ++ between ++ ['('] ++ body ++ [')'] ++ behind) =
      Text.collapse body := by
  have start : ∀ c ∈ (functionWord ++ between).head?, isBlank c = false := by
    rintro c ⟨⟩
    decide
  have header : trim (before ++ functionWord ++ between ++ ['('] ++ body ++ [')'] ++ behind) =
      functionWord ++ (between ++ '(' :: (body ++ [')'])) := by
    have whole := Text.trim_around blank (trimmed_parenthesised start body) blank''
    simpa using whole
  have rest : trim (between ++ '(' :: (body ++ [')'])) = '(' :: (body ++ [')']) := by
    have list : Trimmed ([] ++ '(' :: (body ++ [')'])) := trimmed_parenthesised (by simp) body
    have whole := Text.trim_around blank' list Text.allBlank_nil
    simpa using whole
  have word : functionWord.isPrefixOf (functionWord ++ (between ++ '(' :: (body ++ [')']))) :=
    List.isPrefixOf_iff_prefix.mpr (List.prefix_append _ _)
  rw [argumentList, header, if_pos word, List.drop_left, rest, unwrap_parenthesised]

theorem singlySpaced_argumentList (header : List Char) : SinglySpaced (argumentList header) := by
  rw [argumentList, Text.collapse_eq]
  obtain ⟨-, -, -, -, trimmed, -⟩ := Text.eq_around_trim _
  exact Text.singlySpaced_squeeze trimmed

/-- Whatever the header, the only blanks that are shown are spaces between two other characters. Of
a header with an argument list in parentheses that list is shown, with one space for every run of
blanks in it and none at its ends, so all its other characters are kept. -/
theorem argumentList_of_header :
    (∀ header, SinglySpaced (argumentList header)) ∧
      ∀ before between body behind : List Char,
        AllBlank before → AllBlank between → AllBlank behind →
          let shown := argumentList
            (before ++ functionWord ++ between ++ ['('] ++ body ++ [')'] ++ behind)
          shown = squeeze (trim body) ∧ (shown = [] ↔ AllBlank body) ∧
            shown.filter (!isBlank ·) = body.filter (!isBlank ·) := by
  refine ⟨singlySpaced_argumentList, ?_⟩
  intro before between body behind blank blank' blank'' shown
  have whole : shown = squeeze (trim body) :=
    (argumentList_eq_collapse blank blank' blank'' body).trans (Text.collapse_eq body)
  refine ⟨whole, ?_, ?_⟩
  · rw [whole, Text.squeeze_eq_nil_iff, Text.trim_eq_nil_iff]
  · rw [whole, Text.filter_squeeze, Text.filter_trim]

theorem argumentList_of_header_in_quotes :
    let body := " ) function (x,\n\t y = \" )\" ".toList
    let header := "\n".toList ++ functionWord ++ "\u2003".toList ++ ['('] ++ body ++ [')'] ++
      " \r\n".toList
    AllBlank "\n".toList ∧ AllBlank "\u2003".toList ∧ AllBlank " \r\n".toList ∧
      argumentList header = ") function (x, y = \" )\"".toList := by
  intro body header
  have before : AllBlank "\n".toList := by decide
  have between : AllBlank "\u2003".toList := by decide
  have behind : AllBlank " \r\n".toList := by decide
  obtain ⟨-, shows⟩ := argumentList_of_header
  obtain ⟨shown, -, -⟩ := shows _ _ body _ before between behind
  exact ⟨before, between, behind, shown.trans (by decide +kernel)⟩

end ArgHints.Interpreter
