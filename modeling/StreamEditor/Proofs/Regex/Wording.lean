/-
# The words in the text of a fault

The text of a fault quotes the pattern line by line in a frame of its own: a heading, rulers, the
numbers of the lines, marks under them, and notes on where a span lies. The words by which the kind
of a fault is recognised stand in no part of this frame, and no such word runs from one line into
the next. So the text holds them just if the pattern does or the sentence does that says what is
wrong (`Unframed.holds_text_iff`), and what that sentence holds depends on the fault alone.

Key definitions: `Regex.Kind`, `Regex.Kind.words`, `Regex.Holds`, `Regex.Unframed`.
Key theorems: `Regex.Unframed.holds_text_iff`, `Regex.Kind.named_text_iff`.
-/
import StreamEditor.Proofs.Text.Numeral
import StreamEditor.Regex.Diagnosis

namespace StreamEditor
namespace Regex

/-- The kinds of faults that a diagnosis tells apart, in the order in which they are looked for. -/
inductive Kind where
  | group
  | bracket
  | unsupported
  | repetition
  | escape
  deriving DecidableEq, Repr

/-- The words by which a kind of fault is recognised. -/
def Kind.words : Kind → List String
  | .group => ["unclosed group"]
  | .bracket => ["unclosed character class"]
  | .unsupported => ["look-around", "backreferences are not supported"]
  | .repetition => ["repetition"]
  | .escape => ["escape"]

/-- A text holds some words in lower case. -/
def Holds (words text : List Char) : Prop := words <:+: text.map lowered

/-- A text names a kind of fault by words for it. -/
def Kind.Named (k : Kind) (text : List Char) : Prop := ∃ words ∈ k.words, Holds words.toList text

theorem holdsWords_iff (words : List Char) : ∀ text : List Char,
    holdsWords words text = true ↔ words <:+: text
  | [] => by rw [holdsWords, List.isEmpty_iff, List.infix_nil]
  | c :: text => by
    rw [holdsWords, Bool.or_eq_true, List.isPrefixOf_iff_prefix, holdsWords_iff words text,
      List.infix_cons_iff]

instance (words text : List Char) : Decidable (Holds words text) :=
  decidable_of_iff _ (holdsWords_iff words (text.map lowered))

instance (k : Kind) (text : List Char) : Decidable (k.Named text) :=
  inferInstanceAs (Decidable (∃ words ∈ k.words, Holds words.toList text))

/-! ### Words and separators -/

theorem prefix_of_prefix_append {words after : List Char} {c : Char} (hc : c ∉ words)
    (before : List Char) (h : words <+: before ++ c :: after) : words <+: before := by
  rw [← List.singleton_append, ← List.append_assoc] at h
  rcases List.prefix_or_prefix_of_prefix h (List.prefix_append _ after) with h | h
  · rcases List.prefix_concat_iff.mp h with rfl | h
    · exact absurd (by simp) hc
    · exact h
  · exact absurd (h.subset (by simp)) hc

/-- Words do not run over a character that is not in them. -/
theorem infix_append_cons_iff {words after : List Char} {c : Char} (hc : c ∉ words) :
    ∀ before : List Char,
      words <:+: before ++ c :: after ↔ words <:+: before ∨ words <:+: after
  | [] => by
    have hfirst : words <+: c :: after ↔ words = [] :=
      ⟨fun h => List.prefix_nil.mp (prefix_of_prefix_append hc [] h), fun h => h ▸ List.nil_prefix⟩
    rw [List.nil_append, List.infix_cons_iff, List.infix_nil, hfirst]
  | x :: before => by
    have hfirst : words <+: x :: (before ++ c :: after) ↔ words <+: x :: before :=
      ⟨prefix_of_prefix_append hc (x :: before),
        fun h => h.trans (List.prefix_append (x :: before) (c :: after))⟩
    rw [List.cons_append, List.infix_cons_iff, infix_append_cons_iff hc before,
      List.infix_cons_iff, hfirst, or_assoc]

/-- Words that stand in no part of the frame of a text. -/
structure Unframed (words : List Char) : Prop where
  oneLine : '\n' ∉ words ∧ '\r' ∉ words ∧ ':' ∉ words
  /-- They begin with a letter, as no mark does and nothing that stands before a line. -/
  letter : words.head?.any Char.isLower = true
  /-- They are not in the heading, nor in what introduces the sentence at the end, -/
  heading : ¬ Holds words "regex parse error:".toList ∧ ¬ Holds words "error".toList
  /-- and one of their characters is in no note. -/
  note : ∃ c ∈ words, c ∉ "on line (column) through".toList ∧ c.isDigit = false

theorem Kind.unframed (k : Kind) : ∀ words ∈ k.words, Unframed words.toList := by
  intro words h
  have hline : ∀ words ∈ k.words,
      '\n' ∉ words.toList ∧ '\r' ∉ words.toList ∧ ':' ∉ words.toList := by
    cases k <;> decide
  have hletter : ∀ words ∈ k.words, words.toList.head?.any Char.isLower = true := by
    cases k <;> decide
  have hheading : ∀ words ∈ k.words, ¬ Holds words.toList "regex parse error:".toList ∧
      ¬ Holds words.toList "error".toList := by
    cases k <;> decide
  have hnote : ∀ words ∈ k.words, words.toList.any
      (fun c => !"on line (column) through".toList.contains c && !c.isDigit) = true := by
    cases k <;> decide
  obtain ⟨c, hc, hother⟩ := List.any_eq_true.mp (hnote words h)
  exact ⟨hline words h, hletter words h, hheading words h, c, hc, by simpa using hother⟩

/-- A digit is its own lower case. -/
theorem lowered_of_isDigit {c : Char} (h : c.isDigit = true) : lowered c = c := by
  obtain ⟨-, hhigh⟩ := (Numeral.isDigit_iff c).mp h
  have hkelvin : ¬ (c.toNat == 0x212A) = true := by
    rw [beq_iff_eq]
    omega
  rw [lowered, if_neg hkelvin]
  delta Char.toLower
  rw [dif_neg]
  rintro ⟨hupper, -⟩
  have : 65 ≤ c.toNat := hupper
  omega

/-- Blanks, marks and digits are no letters. -/
theorem isLower_lowered_of_mark {c : Char} (hc : c ∈ " ^~:".toList ∨ c.isDigit = true) :
    (lowered c).isLower = false := by
  rcases hc with hc | hc
  · have hmarks : (" ^~:".toList.all fun c => !(lowered c).isLower) = true := by decide
    simpa using List.all_eq_true.mp hmarks c hc
  · obtain ⟨-, hhigh⟩ := (Numeral.isDigit_iff c).mp hc
    rw [lowered_of_isDigit hc]
    delta Char.isLower
    rw [Bool.and_eq_false_iff]
    left
    rw [decide_eq_false_iff_not]
    intro hlower
    have : 97 ≤ c.toNat := hlower
    omega

namespace Unframed

variable {words : List Char}

/-- The lines of a text hold the words one by one. -/
theorem holds_append_line (h : Unframed words) (line rest : List Char) :
    Holds words (line ++ '\n' :: rest) ↔ Holds words line ∨ Holds words rest := by
  unfold Holds
  rw [List.map_append, List.map_cons]
  exact infix_append_cons_iff h.oneLine.1 _

theorem holds_append_return (h : Unframed words) (line rest : List Char) :
    Holds words (line ++ '\r' :: rest) ↔ Holds words line ∨ Holds words rest := by
  unfold Holds
  rw [List.map_append, List.map_cons]
  exact infix_append_cons_iff h.oneLine.2.1 _

theorem not_holds_nil (h : Unframed words) : ¬ Holds words [] := by
  have hletter := h.letter
  rw [Holds, List.map_nil, List.infix_nil]
  rintro rfl
  cases hletter

/-- What stands before a line holds no letter, so that the words are in the line. -/
theorem holds_append_lead (h : Unframed words) (text : List Char) : ∀ {lead : List Char},
    (∀ c ∈ lead, (lowered c).isLower = false) → (Holds words (lead ++ text) ↔ Holds words text)
  | [], _ => Iff.rfl
  | c :: lead, hlead => by
    have ih := holds_append_lead h text fun x hx => hlead x (List.mem_cons_of_mem _ hx)
    have hfirst : ¬ words <+: lowered c :: (lead ++ text).map lowered := by
      intro hstart
      have hletter := h.letter
      have hc := hlead c List.mem_cons_self
      cases words with
      | nil => cases hletter
      | cons w ws =>
        obtain ⟨rfl, -⟩ := List.cons_prefix_cons.mp hstart
        rw [List.head?_cons, Option.any_some, hc] at hletter
        cases hletter
    unfold Holds at ih ⊢
    rw [List.cons_append, List.map_cons, List.infix_cons_iff, ih, or_iff_right hfirst]

/-- A line without letters holds no words. -/
theorem not_holds_marks (h : Unframed words) {marks : List Char}
    (hmarks : ∀ c ∈ marks, (lowered c).isLower = false) : ¬ Holds words marks := by
  have hlead := h.holds_append_lead [] hmarks
  rw [List.append_nil] at hlead
  rw [hlead]
  exact h.not_holds_nil

end Unframed

/-! ### The frame of a text -/

theorem mem_marks : ∀ (spans : List Span) (col : Nat) {c : Char},
    c ∈ SyntaxError.marks col spans → c = ' ' ∨ c = '^'
  | [], _, _, hc => absurd hc List.not_mem_nil
  | s :: rest, col, c, hc => by
    rw [SyntaxError.marks, List.mem_append, List.mem_append] at hc
    rcases hc with (hc | hc) | hc
    · exact .inl (List.eq_of_mem_replicate hc)
    · exact .inr (List.eq_of_mem_replicate hc)
    · exact mem_marks rest _ hc

theorem mem_padded {width n : Nat} {c : Char} (hc : c ∈ (SyntaxError.padded width n).toList) :
    c = ' ' ∨ c.isDigit = true := by
  rw [SyntaxError.padded, String.toList_append, List.mem_append, String.toList_ofList] at hc
  rcases hc with hc | hc
  · exact .inl (List.eq_of_mem_replicate hc)
  · exact .inr (Numeral.isDigit_of_mem_repr hc)

/-- The characters of notes: the letters that all notes have, and digits. -/
def InNote (text : String) : Prop :=
  ∀ c ∈ text.toList, c ∈ "on line (column) through".toList ∨ c.isDigit = true

theorem InNote.append {a b : String} (ha : InNote a) (hb : InNote b) : InNote (a ++ b) := by
  intro c hc
  rw [String.toList_append, List.mem_append] at hc
  exact hc.elim (ha c) (hb c)

theorem inNote_number (n : Nat) : InNote (toString n) :=
  fun _ hc => .inr (Numeral.isDigit_of_mem_repr hc)

theorem inNote_note (s : Span) : InNote (SyntaxError.note s) := by
  have hparts : ∀ part ∈ ["on line ", " (column ", ") through line ", ")"],
      part.toList.all "on line (column) through".toList.contains = true := by decide
  have hpart : ∀ part ∈ ["on line ", " (column ", ") through line ", ")"], InNote part :=
    fun part h c hc => .inl (by simpa using List.all_eq_true.mp (hparts part h) c hc)
  have hline := (hpart "on line " (by simp)).append (inNote_number s.start.line)
  have hcolumn := (hline.append (hpart " (column " (by simp))).append
    (inNote_number s.start.column)
  have hlast := (hcolumn.append (hpart ") through line " (by simp))).append
    (inNote_number s.stop.line)
  exact ((hlast.append (hpart " (column " (by simp))).append
    (inNote_number (s.stop.column - 1))).append (hpart ")" (by simp))

theorem mem_intercalate {sep c : Char} : ∀ {texts : List (List Char)},
    c ∈ [sep].intercalate texts → c = sep ∨ ∃ text ∈ texts, c ∈ text
  | [], hc => by simp at hc
  | [text], hc => .inr ⟨text, List.mem_singleton_self text, by simpa using hc⟩
  | text :: next :: texts, hc => by
    rw [List.intercalate_cons_cons, List.mem_append, List.mem_append, List.mem_singleton] at hc
    rcases hc with (hc | hc) | hc
    · exact .inr ⟨text, List.mem_cons_self, hc⟩
    · exact .inl hc
    · rcases mem_intercalate hc with hc | ⟨t, ht, hc⟩
      · exact .inl hc
      · exact .inr ⟨t, List.mem_cons_of_mem _ ht, hc⟩

namespace Unframed

variable {words : List Char}

/-- The notes hold no words. -/
theorem not_holds_notes (h : Unframed words) (spans : List Span) :
    ¬ Holds words (String.intercalate "\n" (spans.map SyntaxError.note)).toList := by
  obtain ⟨c, hc, hletters, hdigit⟩ := h.note
  intro hholds
  obtain ⟨x, hx, hlow⟩ := List.mem_map.mp (hholds.subset hc)
  rw [String.toList_intercalate, show "\n".toList = ['\n'] from String.toList_ofList] at hx
  rcases mem_intercalate hx with rfl | ⟨text, htext, hx⟩
  · rw [← hlow] at hc
    exact h.oneLine.1 hc
  · rw [List.mem_map] at htext
    obtain ⟨note, hnote, rfl⟩ := htext
    obtain ⟨s, -, rfl⟩ := List.mem_map.mp hnote
    have hsame : ("on line (column) through".toList.all fun c => lowered c == c) = true := by
      decide
    rcases inNote_note s x hx with hx | hx
    · rw [beq_iff_eq.mp (List.all_eq_true.mp hsame x hx)] at hlow
      exact hletters (hlow ▸ hx)
    · rw [lowered_of_isDigit hx] at hlow
      rw [← hlow, hx] at hdigit
      cases hdigit

/-! ### The text -/

/-- The lines of a text hold the words of the text. -/
theorem holds_linesFrom (h : Unframed words) (line rest : List Char) :
    (∃ l ∈ SyntaxError.linesFrom line rest, Holds words l) ↔
      Holds words (line.reverse ++ rest) := by
  fun_induction SyntaxError.linesFrom line rest with
  | case1 => exact iff_of_false (by simp) h.not_holds_nil
  | case2 line => simp
  | case3 line rest ih =>
    simp only [List.mem_cons, exists_eq_or_imp]
    rw [ih, List.reverse_cons, holds_append_line h,
      holds_append_return h, or_iff_left h.not_holds_nil]
    exact Iff.rfl
  | case4 line rest _ ih =>
    simp only [List.mem_cons, exists_eq_or_imp]
    rw [ih, holds_append_line h]
    exact Iff.rfl
  | case5 line c rest _ _ ih =>
    rw [ih, List.reverse_cons, List.append_assoc, List.singleton_append]

/-- Nothing is lost with the number of a line, -/
theorem holds_append_number (h : Unframed words) (width n : Nat) (text : List Char) :
    Holds words
        ((if width = 0 then "    " else SyntaxError.padded width n ++ ": ").toList ++ text) ↔
      Holds words text := by
  apply h.holds_append_lead
  intro c hc
  apply isLower_lowered_of_mark
  have hparts : ∀ part ∈ ["    ", ": "], part.toList.all " ^~:".toList.contains = true := by
    decide
  have hblanks : ∀ part ∈ ["    ", ": "], ∀ c ∈ part.toList, c ∈ " ^~:".toList :=
    fun part h c hc => by simpa using List.all_eq_true.mp (hparts part h) c hc
  by_cases hwidth : width = 0
  · rw [if_pos hwidth] at hc
    exact .inl (hblanks _ (by simp) c hc)
  · rw [if_neg hwidth, String.toList_append, List.mem_append] at hc
    rcases hc with hc | hc
    · rcases mem_padded hc with rfl | hc
      · exact .inl (by decide)
      · exact .inr hc
    · exact .inl (hblanks _ (by simp) c hc)

/-- nor with the marks under it. -/
theorem holds_append_marks (h : Unframed words) (indent : Nat) (spans : List Span)
    (text : List Char) :
    Holds words ((if spans.isEmpty then ""
      else String.ofList (List.replicate indent ' ' ++ SyntaxError.marks 0 spans) ++ "\n").toList ++
        text) ↔ Holds words text := by
  by_cases hspans : spans.isEmpty
  · rw [if_pos hspans]
    exact Iff.rfl
  · rw [if_neg hspans, String.toList_append, String.toList_ofList, List.append_assoc]
    refine (h.holds_append_line _ text).trans (or_iff_right (h.not_holds_marks fun c hc => ?_))
    apply isLower_lowered_of_mark
    left
    rcases List.mem_append.mp hc with hc | hc
    · rw [List.eq_of_mem_replicate hc]
      decide
    · rcases mem_marks spans 0 hc with rfl | rfl <;> decide

/-- A pattern is quoted line by line. -/
theorem holds_notated (h : Unframed words) (width : Nat) (single : List Span) (rest : List Char) :
    ∀ (lines : List (List Char)) (n : Nat),
      Holds words ((SyntaxError.notated width single n lines).toList ++ rest) ↔
        (∃ line ∈ lines, Holds words line) ∨ Holds words rest
  | [], _ => by simp [SyntaxError.notated]
  | line :: lines, n => by
    have ih := holds_notated h width single rest lines (n + 1)
    have hparts : ∀ number feed under later : String,
        (number ++ String.ofList line ++ feed ++ under ++ later).toList ++ rest =
          number.toList ++ (line ++ (feed.toList ++ (under.toList ++ (later.toList ++ rest)))) := by
      simp only [String.toList_append, String.toList_ofList, List.append_assoc, implies_true]
    simp only [List.mem_cons, exists_eq_or_imp]
    rw [or_assoc, ← ih, SyntaxError.notated, hparts, h.holds_append_number]
    exact (h.holds_append_line line _).trans (or_congr_right (h.holds_append_marks _ _ _))

/-- Nothing is lost with the heading, -/
theorem holds_append_heading (h : Unframed words) (text : List Char) :
    Holds words ("regex parse error:\n".toList ++ text) ↔ Holds words text := by
  have hheading : "regex parse error:\n".toList = "regex parse error:".toList ++ ['\n'] := by
    rw [String.toList_ofList, String.toList_ofList]
    rfl
  rw [hheading, List.append_assoc, List.singleton_append]
  exact (h.holds_append_line _ text).trans (or_iff_right h.heading.1)

/-- nor with a ruler, -/
theorem holds_append_ruler (h : Unframed words) (n : Nat) (text : List Char) :
    Holds words (List.replicate n '~' ++ "\n".toList ++ text) ↔ Holds words text := by
  rw [List.append_assoc]
  refine (h.holds_append_line _ text).trans (or_iff_right (h.not_holds_marks fun c hc => ?_))
  rw [List.eq_of_mem_replicate hc]
  decide

/-- nor with the notes, -/
theorem holds_append_notes (h : Unframed words) (spans : List Span) (text : List Char) :
    Holds words ((if spans.isEmpty then ""
      else String.intercalate "\n" (spans.map SyntaxError.note) ++ "\n").toList ++ text) ↔
        Holds words text := by
  by_cases hspans : spans.isEmpty
  · rw [if_pos hspans]
    exact Iff.rfl
  · rw [if_neg hspans, String.toList_append, List.append_assoc]
    exact (h.holds_append_line _ text).trans (or_iff_right (h.not_holds_notes spans))

/-- nor with what stands before the sentence at the end. -/
theorem holds_append_error (h : Unframed words) (text : List Char) :
    Holds words ("error: ".toList ++ text) ↔ Holds words text := by
  have herror : "error: ".toList = "error".toList ++ [':', ' '] := by
    rw [String.toList_ofList, String.toList_ofList]
    rfl
  have hblank : Holds words ([' '] ++ text) ↔ Holds words text :=
    h.holds_append_lead text fun c hc => by
      rw [List.mem_singleton.mp hc]
      decide
  have hcolon : Holds words ("error".toList ++ ':' :: ' ' :: text) ↔
      Holds words "error".toList ∨ Holds words (' ' :: text) := by
    unfold Holds
    rw [List.map_append, List.map_cons]
    exact infix_append_cons_iff h.oneLine.2.2 _
  rw [herror, List.append_assoc]
  exact hcolon.trans ((or_iff_right h.heading.2).trans hblank)

/-- **The text of a fault holds the words** just if the pattern does, or the sentence does that says
what is wrong. -/
theorem holds_text_iff (h : Unframed words) (e : SyntaxError) (pattern : List Char) :
    Holds words (e.text pattern).toList ↔
      Holds words pattern ∨ Holds words e.fault.what.toList := by
  have hlines : (∃ line ∈ SyntaxError.shownLines pattern, Holds words line) ↔
      Holds words pattern := h.holds_linesFrom [] pattern
  have hfour : ∀ a b c d : String, (a ++ b ++ c ++ d).toList =
      a.toList ++ (b.toList ++ (c.toList ++ d.toList)) := by
    simp only [String.toList_append, List.append_assoc, implies_true]
  have hruled : ∀ (r : List Char) (a feed b n c d : String),
      (a ++ (String.ofList r ++ feed) ++ b ++ (String.ofList r ++ feed) ++ n ++ c ++ d).toList =
        a.toList ++ (r ++ feed.toList ++ (b.toList ++ (r ++ feed.toList ++
          (n.toList ++ (c.toList ++ d.toList))))) := by
    simp only [String.toList_append, String.toList_ofList, List.append_assoc, implies_true]
  unfold SyntaxError.text
  by_cases hfeed : pattern.contains '\n' = true
  · rw [if_pos hfeed, hruled, h.holds_append_heading, h.holds_append_ruler, h.holds_notated,
      h.holds_append_ruler, h.holds_append_notes, h.holds_append_error, hlines]
  · rw [if_neg hfeed, hfour, h.holds_append_heading, h.holds_notated, h.holds_append_error, hlines]

end Unframed

/-! ### The sentence at the end -/

/-- The kind of fault that the sentence names which says what is wrong. -/
def Fault.kind? : Fault → Option Kind
  | .groupUnclosed => some .group
  | .classUnclosed => some .bracket
  | .unsupportedBackreference => some .unsupported
  | .unsupportedLookAround => some .unsupported
  | .repetitionCountInvalid => some .repetition
  | .repetitionCountDecimalEmpty => some .repetition
  | .repetitionCountUnclosed => some .repetition
  | .repetitionMissing => some .repetition
  | .specialWordOrRepetitionUnexpectedEnd => some .repetition
  | .classEscapeInvalid => some .escape
  | .escapeUnexpectedEnd => some .escape
  | .escapeUnrecognized => some .escape
  | _ => none

/-- A sentence names the kind of its fault and no other. There are finitely many sentences, and each
is looked through. -/
theorem Kind.named_what_iff (k : Kind) (f : Fault) : k.Named f.what.toList ↔ f.kind? = some k := by
  have hall : (Holds "unclosed group".toList f.what.toList ↔ f.kind? = some .group) ∧
      (Holds "unclosed character class".toList f.what.toList ↔ f.kind? = some .bracket) ∧
      (Holds "look-around".toList f.what.toList ∨
        Holds "backreferences are not supported".toList f.what.toList ↔
          f.kind? = some .unsupported) ∧
      (Holds "repetition".toList f.what.toList ↔ f.kind? = some .repetition) ∧
      (Holds "escape".toList f.what.toList ↔ f.kind? = some .escape) := by
    rw [String.toList_ofList, String.toList_ofList, String.toList_ofList, String.toList_ofList,
      String.toList_ofList, String.toList_ofList]
    cases f <;> dsimp only [Fault.what, String.reduceAppend] <;> rw [String.toList_ofList] <;>
      decide +kernel
  obtain ⟨hgroup, hbracket, hunsupported, hrepetition, hescape⟩ := hall
  cases k with
  | group => simpa only [Kind.Named, Kind.words, List.mem_singleton, exists_eq_left] using hgroup
  | bracket =>
    simpa only [Kind.Named, Kind.words, List.mem_singleton, exists_eq_left] using hbracket
  | unsupported =>
    simpa only [Kind.Named, Kind.words, List.mem_cons, List.not_mem_nil, or_false,
      exists_eq_or_imp, exists_eq_left] using hunsupported
  | repetition =>
    simpa only [Kind.Named, Kind.words, List.mem_singleton, exists_eq_left] using hrepetition
  | escape => simpa only [Kind.Named, Kind.words, List.mem_singleton, exists_eq_left] using hescape

/-- **The text of a fault names a kind** just if its pattern does or it is the kind of the fault. -/
theorem Kind.named_text_iff (k : Kind) (e : SyntaxError) (pattern : List Char) :
    k.Named (e.text pattern).toList ↔ k.Named pattern ∨ e.fault.kind? = some k := by
  rw [← k.named_what_iff]
  constructor
  · rintro ⟨words, hwords, h⟩
    rcases ((k.unframed words hwords).holds_text_iff e pattern).mp h with h | h
    · exact .inl ⟨words, hwords, h⟩
    · exact .inr ⟨words, hwords, h⟩
  · rintro (⟨words, hwords, h⟩ | ⟨words, hwords, h⟩)
    · exact ⟨words, hwords, ((k.unframed words hwords).holds_text_iff e pattern).mpr (.inl h)⟩
    · exact ⟨words, hwords, ((k.unframed words hwords).holds_text_iff e pattern).mpr (.inr h)⟩

end Regex
end StreamEditor
