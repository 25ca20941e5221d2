import ArgHints.Text
import Mathlib.Data.List.Chain
import Mathlib.Data.List.DropRight

namespace ArgHints.Text

def AllBlank (text : List Char) : Prop :=
  ∀ c ∈ text, isBlank c = true

instance (text : List Char) : Decidable (AllBlank text) :=
  List.decidableBAll (fun c => isBlank c = true) text

structure Trimmed (text : List Char) : Prop where
  first : ∀ c ∈ text.head?, isBlank c = false
  last : ∀ c ∈ text.getLast?, isBlank c = false

theorem not_of_mem_getLast?_rdropWhile {p : Char → Bool} {text : List Char} {c : Char}
    (last : c ∈ (text.rdropWhile p).getLast?) : p c = false := by
  obtain ⟨nonempty, rfl⟩ := List.mem_getLast?_eq_getLast last
  simpa using List.rdropWhile_last_not p text nonempty

theorem not_of_mem_head?_dropWhile {p : Char → Bool} {text : List Char} {c : Char}
    (first : c ∈ (text.dropWhile p).head?) : p c = false := by
  have stops := List.head?_dropWhile_not p text
  rw [Option.mem_def.mp first] at stops
  simpa using stops

theorem allBlank_nil : AllBlank [] :=
  List.forall_mem_nil _

theorem AllBlank.filter {text : List Char} (blank : AllBlank text) :
    text.filter (!isBlank ·) = [] := by
  simpa [AllBlank] using blank

theorem trimEnd_cons (c : Char) (rest : List Char) :
    trimEnd (c :: rest) =
      if trimEnd rest = [] ∧ isBlank c = true then [] else c :: trimEnd rest := by
  simp only [trimEnd, List.reverse_cons, List.dropWhile_append, List.isEmpty_iff,
    List.reverse_eq_nil_iff]
  by_cases none : rest.reverse.dropWhile isBlank = []
  · cases blank : isBlank c with
    | true => simp [none, blank]
    | false => simp [none, blank]
  · simp [none]

theorem trimEnd_append {back : List Char} (text : List Char) (blank : AllBlank back) :
    trimEnd (text ++ back) = trimEnd text := by
  rw [trimEnd, trimEnd, List.reverse_append, List.dropWhile_append_of_pos]
  simpa [AllBlank] using blank

theorem trimEnd_of_last {text : List Char} (last : ∀ c ∈ text.getLast?, isBlank c = false) :
    trimEnd text = text := by
  apply List.rdropWhile_eq_self_iff.mpr
  intro nonempty
  simp [last _ (List.getLast_mem_getLast? nonempty)]

theorem dropWhile_of_first {text : List Char} (first : ∀ c ∈ text.head?, isBlank c = false) :
    text.dropWhile isBlank = text := by
  cases text with
  | nil => rfl
  | cons c rest => rw [List.dropWhile_cons_of_neg (by simp [first c rfl])]

theorem trim_around {front body back : List Char} (blank : AllBlank front)
    (trimmed : Trimmed body) (blank' : AllBlank back) : trim (front ++ body ++ back) = body := by
  rw [trim, List.append_assoc, List.dropWhile_append_of_pos blank]
  cases body with
  | nil =>
      have none : back.dropWhile isBlank = [] := List.dropWhile_eq_nil_iff.mpr blank'
      rw [List.nil_append, none]
      rfl
  | cons c rest =>
      have first : ∀ d ∈ (c :: rest ++ back).head?, isBlank d = false := trimmed.first
      rw [dropWhile_of_first first, trimEnd_append _ blank', trimEnd_of_last trimmed.last]

theorem eq_around_trim (text : List Char) :
    ∃ front back, AllBlank front ∧ AllBlank back ∧ Trimmed (trim text) ∧
      text = front ++ trim text ++ back := by
  have tail : trim text ++ (text.dropWhile isBlank).rtakeWhile isBlank = text.dropWhile isBlank :=
    List.rdropWhile_append_rtakeWhile
  refine ⟨text.takeWhile isBlank, (text.dropWhile isBlank).rtakeWhile isBlank, ?_, ?_, ⟨?_, ?_⟩, ?_⟩
  · exact fun c member => List.mem_takeWhile_imp member
  · exact fun c member => List.mem_rtakeWhile_imp member
  · intro c first
    have start : c ∈ (text.dropWhile isBlank).head? := by
      rw [← tail, List.head?_append, Option.mem_def.mp first]
      rfl
    exact not_of_mem_head?_dropWhile start
  · exact fun c last => not_of_mem_getLast?_rdropWhile last
  · rw [List.append_assoc, tail, List.takeWhile_append_dropWhile]

theorem trim_eq_nil_iff (text : List Char) : trim text = [] ↔ AllBlank text := by
  obtain ⟨front, back, blank, blank', -, parts⟩ := eq_around_trim text
  constructor
  · intro empty
    rw [parts, empty, List.append_nil]
    intro c member
    exact (List.mem_append.mp member).elim (blank c) (blank' c)
  · intro all
    have none : Trimmed [] := ⟨by simp, by simp⟩
    have bare := trim_around all none allBlank_nil
    rwa [List.append_nil, List.append_nil] at bare

theorem filter_trim (text : List Char) :
    (trim text).filter (!isBlank ·) = text.filter (!isBlank ·) := by
  obtain ⟨front, back, blank, blank', -, parts⟩ := eq_around_trim text
  calc (trim text).filter (!isBlank ·)
      = (front ++ trim text ++ back).filter (!isBlank ·) := by
        rw [List.filter_append, List.filter_append, blank.filter, blank'.filter, List.nil_append,
          List.append_nil]
    _ = text.filter (!isBlank ·) := by rw [← parts]

def spaced (c : Char) : Char :=
  if isBlank c then ' ' else c

/-- A text with one space for every run of blanks. A blank in front of another one is left out. -/
def squeeze : List Char → List Char
  | [] => []
  | c :: rest =>
    if isBlank c && rest.head?.any isBlank then squeeze rest else spaced c :: squeeze rest

theorem spaced_of_blank {c : Char} (blank : isBlank c = true) : spaced c = ' ' :=
  if_pos blank

theorem spaced_of_not_blank {c : Char} (other : isBlank c = false) : spaced c = c :=
  if_neg (by simp [other])

@[simp] theorem isBlank_spaced (c : Char) : isBlank (spaced c) = isBlank c := by
  cases blank : isBlank c with
  | true => rw [spaced_of_blank blank]; rfl
  | false => rw [spaced_of_not_blank blank, blank]

theorem squeeze_of_not_blank {c : Char} (other : isBlank c = false) (rest : List Char) :
    squeeze (c :: rest) = c :: squeeze rest := by
  rw [squeeze, if_neg (by simp [other]), spaced_of_not_blank other]

theorem squeeze_of_blank {c : Char} (blank : isBlank c = true) (rest : List Char) :
    squeeze (c :: rest) = ' ' :: squeeze (rest.dropWhile isBlank) := by
  induction rest generalizing c with
  | nil => simp [squeeze, blank, spaced_of_blank]
  | cons d rest ih =>
      rw [squeeze, List.head?_cons, Option.any_some, blank, Bool.true_and]
      cases next : isBlank d with
      | true => rw [if_pos rfl, ih next, List.dropWhile_cons_of_pos next]
      | false =>
          rw [if_neg Bool.false_ne_true, List.dropWhile_cons_of_neg (by simp [next]),
            spaced_of_blank blank]

theorem head?_squeeze (text : List Char) : (squeeze text).head? = text.head?.map spaced := by
  induction text using squeeze.induct with
  | case1 => rfl
  | case2 c rest both ih =>
      cases rest with
      | nil => simp at both
      | cons d rest =>
          obtain ⟨blank, next⟩ := Bool.and_eq_true_iff.mp both
          rw [squeeze, if_pos both, ih, List.head?_cons, List.head?_cons, Option.map_some,
            Option.map_some, spaced_of_blank blank, spaced_of_blank next]
  | case3 c rest kept ih => rw [squeeze, if_neg kept]; rfl

theorem getLast?_squeeze (text : List Char) :
    (squeeze text).getLast? = text.getLast?.map spaced := by
  induction text using squeeze.induct with
  | case1 => rfl
  | case2 c rest both ih =>
      cases rest with
      | nil => simp at both
      | cons d rest => rw [squeeze, if_pos both, ih, List.getLast?_cons_cons]
  | case3 c rest kept ih =>
      rw [squeeze, if_neg kept, List.getLast?_cons, ih, List.getLast?_cons, Option.map_some,
        Option.getD_map]

theorem squeeze_eq_nil_iff (text : List Char) : squeeze text = [] ↔ text = [] := by
  rw [← List.head?_eq_none_iff, head?_squeeze, Option.map_eq_none_iff, List.head?_eq_none_iff]

theorem squeeze_trimEnd_of_blank {c : Char} (blank : isBlank c = true) (rest : List Char) :
    squeeze (trimEnd (c :: rest)) = if AllBlank rest then [] else ' ' :: squeeze (trim rest) := by
  obtain ⟨front, back, blank', blank'', trimmed, parts⟩ := eq_around_trim rest
  by_cases all : AllBlank rest
  · have whole : AllBlank (c :: rest) := List.forall_mem_cons.mpr ⟨blank, all⟩
    rw [if_pos all, ← List.nil_append (c :: rest), trimEnd_append [] whole]
    rfl
  · have some : trim rest ≠ [] := (trim_eq_nil_iff rest).not.mpr all
    have last : ∀ d ∈ (c :: front ++ trim rest).getLast?, isBlank d = false := by
      rw [List.getLast?_append_of_ne_nil _ some]
      exact trimmed.last
    have kept : trimEnd (c :: rest) = c :: (front ++ trim rest) :=
      calc trimEnd (c :: rest)
          = trimEnd (c :: front ++ trim rest ++ back) := by
            rw [List.cons_append, List.cons_append, ← parts]
        _ = c :: (front ++ trim rest) := by rw [trimEnd_append _ blank'', trimEnd_of_last last]; rfl
    rw [if_neg all, kept, squeeze_of_blank blank, List.dropWhile_append_of_pos blank',
      dropWhile_of_first trimmed.first]

theorem filter_squeeze (text : List Char) :
    (squeeze text).filter (!isBlank ·) = text.filter (!isBlank ·) := by
  induction text using squeeze.induct with
  | case1 => rfl
  | case2 c rest both ih =>
      obtain ⟨blank, -⟩ := Bool.and_eq_true_iff.mp both
      rw [squeeze, if_pos both, ih, List.filter_cons_of_neg (by simp [blank])]
  | case3 c rest kept ih =>
      rw [squeeze, if_neg kept]
      cases blank : isBlank c with
      | true =>
          rw [List.filter_cons_of_neg (by simp [blank]), List.filter_cons_of_neg (by simp [blank]),
            ih]
      | false =>
          rw [spaced_of_not_blank blank, List.filter_cons_of_pos (by simp [blank]),
            List.filter_cons_of_pos (by simp [blank]), ih]

/-- A text whose only blanks are spaces, each between two characters that are not blank. -/
structure SinglySpaced (text : List Char) : Prop extends Trimmed text where
  space : ∀ c ∈ text, isBlank c = true → c = ' '
  single : text.IsChain fun c d => isBlank c = false ∨ isBlank d = false

theorem trimmed_squeeze {text : List Char} (trimmed : Trimmed text) : Trimmed (squeeze text) := by
  constructor
  · rw [head?_squeeze]
    intro c first
    obtain ⟨d, start, rfl⟩ := Option.map_eq_some_iff.mp first
    rw [isBlank_spaced, trimmed.first d start]
  · rw [getLast?_squeeze]
    intro c last
    obtain ⟨d, stop, rfl⟩ := Option.map_eq_some_iff.mp last
    rw [isBlank_spaced, trimmed.last d stop]

theorem eq_space_of_mem_squeeze {text : List Char} {c : Char} (member : c ∈ squeeze text)
    (blank : isBlank c = true) : c = ' ' := by
  induction text using squeeze.induct with
  | case1 => cases member
  | case2 d rest both ih =>
      rw [squeeze, if_pos both] at member
      exact ih member
  | case3 d rest kept ih =>
      rw [squeeze, if_neg kept] at member
      rcases List.mem_cons.mp member with rfl | later
      · exact spaced_of_blank (isBlank_spaced d ▸ blank)
      · exact ih later

theorem isChain_squeeze (text : List Char) :
    (squeeze text).IsChain fun c d => isBlank c = false ∨ isBlank d = false := by
  induction text using squeeze.induct with
  | case1 => exact .nil
  | case2 c rest both ih =>
      rw [squeeze, if_pos both]
      exact ih
  | case3 c rest kept ih =>
      rw [squeeze, if_neg kept, List.isChain_cons]
      refine ⟨fun d first => ?_, ih⟩
      rw [head?_squeeze] at first
      obtain ⟨e, next, rfl⟩ := Option.map_eq_some_iff.mp first
      rw [next] at kept
      simpa [← Bool.not_eq_true, imp_iff_not_or] using kept

theorem singlySpaced_squeeze {text : List Char} (trimmed : Trimmed text) :
    SinglySpaced (squeeze text) :=
  ⟨trimmed_squeeze trimmed, fun _ => eq_space_of_mem_squeeze, isChain_squeeze text⟩

theorem wordsOnto_eq (found : List (List Char)) (word text : List Char) :
    wordsOnto found word text = found.reverse ++ wordsOnto [] word text := by
  induction text generalizing found word with
  | nil =>
      cases word with
      | nil => simp [wordsOnto]
      | cons c rest => simp [wordsOnto]
  | cons c rest ih =>
      rw [wordsOnto, wordsOnto]
      split
      · rw [ih, ih (if word.isEmpty then [] else _)]
        cases word with
        | nil => rfl
        | cons d word => simp
      · exact ih found (c :: word)

theorem words_of_blank {c : Char} (blank : isBlank c = true) (rest : List Char) :
    words (c :: rest) = words rest := by
  rw [words, wordsOnto, if_pos blank]
  rfl

theorem words_eq_nil {text : List Char} (blank : AllBlank text) : words text = [] := by
  induction text with
  | nil => rfl
  | cons c rest ih =>
      obtain ⟨here, later⟩ := List.forall_mem_cons.mp blank
      rw [words_of_blank here, ih later]

theorem wordsOnto_of_blank {c : Char} {word : List Char} (nonempty : word ≠ [])
    (blank : isBlank c = true) (rest : List Char) :
    wordsOnto [] word (c :: rest) = word.reverse :: words rest := by
  rw [wordsOnto, if_pos blank, if_neg (by simpa using nonempty), wordsOnto_eq]
  rfl

theorem wordsOnto_of_not_blank {c : Char} (other : isBlank c = false) (word rest : List Char) :
    wordsOnto [] word (c :: rest) = wordsOnto [] (c :: word) rest := by
  rw [wordsOnto, if_neg (by simp [other])]

theorem intercalate_wordsOnto (text : List Char) :
    collapse text = squeeze (trim text) ∧
      ∀ word ≠ [], [' '].intercalate (wordsOnto [] word text) =
        word.reverse ++ squeeze (trimEnd text) := by
  induction text with
  | nil =>
      refine ⟨rfl, fun word nonempty => ?_⟩
      rw [wordsOnto, if_neg (by simpa using nonempty)]
      simp [trimEnd, squeeze]
  | cons c rest ih =>
      obtain ⟨whole, going⟩ := ih
      cases blank : isBlank c with
      | true =>
          constructor
          · rw [collapse, words_of_blank blank, ← collapse, whole, trim, trim,
              List.dropWhile_cons_of_pos blank]
          · intro word nonempty
            rw [wordsOnto_of_blank nonempty blank, squeeze_trimEnd_of_blank blank]
            by_cases all : AllBlank rest
            · rw [words_eq_nil all, if_pos all, List.intercalate_singleton, List.append_nil]
            · have some : words rest ≠ [] := by
                intro none
                have empty : collapse rest = [] := by rw [collapse, none]; rfl
                rw [whole, squeeze_eq_nil_iff, trim_eq_nil_iff] at empty
                exact all empty
              obtain ⟨next, later, split⟩ := List.exists_cons_of_ne_nil some
              rw [if_neg all, ← whole, collapse, split, List.intercalate_cons_cons]
              simp
      | false =>
          have kept : squeeze (trimEnd (c :: rest)) = c :: squeeze (trimEnd rest) := by
            rw [trimEnd_cons, if_neg (by simp [blank]), squeeze_of_not_blank blank]
          constructor
          · rw [collapse, words, wordsOnto_of_not_blank blank, going [c] (List.cons_ne_nil c []),
              trim, List.dropWhile_cons_of_neg (by simp [blank]), kept]
            rfl
          · intro word nonempty
            rw [wordsOnto_of_not_blank blank, going (c :: word) (List.cons_ne_nil c word), kept]
            simp

theorem collapse_eq (text : List Char) : collapse text = squeeze (trim text) :=
  (intercalate_wordsOnto text).1

end ArgHints.Text
