/-
# The language of ranges

A range is written as two numerals with one comma between them, and a letter `p` behind the second
is no part of it. A text with another number of commas is no range, and in a text with one comma the
first token that is no numeral is blamed, for the reason that its characters give from the left.
`Denotes` says so as a relation, and parsing gives what it says and nothing else (`parse_iff`).

Key definitions: `LineRange.Lettered`, `LineRange.Denotes`.
Key theorem: `LineRange.parse_iff`.
-/
import StreamEditor.Proofs.LineRange
import StreamEditor.Proofs.Text.NumeralGrammar

namespace StreamEditor
namespace LineRange

/-- A token, and how it may be written: with one letter `p` behind it, or, if it does not end in
one, as it is. -/
inductive Lettered : List Char → List Char → Prop
  | written (token : List Char) : Lettered token (token ++ ['p'])
  | bare {token : List Char} : token.getLast? ≠ some 'p' → Lettered token token

theorem withoutLetter_eq_iff (stop token : List Char) :
    withoutLetter stop = token ↔ Lettered token stop := by
  unfold withoutLetter
  constructor
  · rintro rfl
    by_cases hlast : stop.getLast? = some 'p'
    · obtain ⟨token, rfl⟩ := List.getLast?_eq_some_iff.mp hlast
      rw [if_pos (beq_iff_eq.mpr hlast), List.dropLast_concat]
      exact .written token
    · rw [if_neg (mt beq_iff_eq.mp hlast)]
      exact .bare hlast
  · intro h
    cases h with
    | written => simp
    | bare hlast => rw [if_neg (mt beq_iff_eq.mp hlast)]

/-- What a text says as a range. -/
inductive Denotes : String → Except RangeError LineRange → Prop
  /-- Two numerals are the ends of a range. -/
  | range {start stop token : List Char} {a b : Int} : ',' ∉ start → ',' ∉ stop →
      Lettered token stop → Numeral.Denotes start (.ok a) → Numeral.Denotes token (.ok b) →
      Denotes (String.ofList (start ++ ',' :: stop)) (.ok ⟨a, b⟩)
  /-- The first of two tokens is blamed before the second is looked at, -/
  | start {start stop : List Char} {fault : Numeral.Fault} : ',' ∉ start → ',' ∉ stop →
      Numeral.Denotes start (.error fault) →
      Denotes (String.ofList (start ++ ',' :: stop)) (.error (.number (String.ofList start) fault))
  /-- and the second, without its letter, if the first is a numeral. -/
  | stop {start stop token : List Char} {a : Int} {fault : Numeral.Fault} : ',' ∉ start →
      ',' ∉ stop → Lettered token stop → Numeral.Denotes start (.ok a) →
      Numeral.Denotes token (.error fault) →
      Denotes (String.ofList (start ++ ',' :: stop)) (.error (.number (String.ofList token) fault))
  /-- Any other number of tokens is an error. -/
  | tokenCount {expr : String} : expr.toList.count ',' ≠ 1 →
      Denotes expr (.error (.tokenCount expr))

/-- A text of two tokens has these for its fields, -/
theorem split_of_comma {start stop : List Char} (hstart : ',' ∉ start) (hstop : ',' ∉ stop) :
    Fields.split ',' (String.ofList (start ++ ',' :: stop)).toList = [start, stop] := by
  rw [Fields.split_eq_iff]
  exact ⟨List.cons_ne_nil _ _, by simp [hstart, hstop], by simp [Fields.join]⟩

/-- and the text of two fields has one comma. -/
theorem comma_of_split {expr : String} {start stop : List Char}
    (h : Fields.split ',' expr.toList = [start, stop]) :
    ',' ∉ start ∧ ',' ∉ stop ∧ expr = String.ofList (start ++ ',' :: stop) := by
  obtain ⟨-, hfree, hjoin⟩ := (Fields.split_eq_iff _ _).mp h
  refine ⟨hfree start (by simp), hfree stop (by simp), ?_⟩
  rw [← String.toList_inj, String.toList_ofList, ← hjoin]
  rfl

theorem parse_of_comma {start stop : List Char} (hstart : ',' ∉ start) (hstop : ',' ∉ stop) :
    parse (String.ofList (start ++ ',' :: stop)) = (do
      let a ← readNumber start
      let b ← readNumber (withoutLetter stop)
      .ok ⟨a, b⟩) := by
  rw [parse, split_of_comma hstart hstop]

theorem parse_of_count {expr : String} (h : expr.toList.count ',' ≠ 1) :
    parse expr = .error (.tokenCount expr) := by
  have hlen := Fields.length_split ',' expr.toList
  unfold parse
  split
  · next hs =>
    rw [hs] at hlen
    exact absurd (Nat.succ.inj hlen).symm h
  · rfl

theorem readNumber_of_ok {token : List Char} {n : Int} (h : Numeral.Denotes token (.ok n)) :
    readNumber token = .ok n := by
  rw [readNumber, (Numeral.read_eq_iff token _).mpr h]

theorem readNumber_of_error {token : List Char} {fault : Numeral.Fault}
    (h : Numeral.Denotes token (.error fault)) :
    readNumber token = .error (.number (String.ofList token) fault) := by
  rw [readNumber, (Numeral.read_eq_iff token _).mpr h]

/-- A text denotes what parsing it gives, -/
theorem denotes_parse (expr : String) : Denotes expr (parse expr) := by
  by_cases hcount : expr.toList.count ',' = 1
  · have hlen := Fields.length_split ',' expr.toList
    rw [hcount] at hlen
    have hs := List.eq_getElem_of_length_eq_two _ hlen
    generalize (Fields.split ',' expr.toList)[0] = start at hs
    generalize (Fields.split ',' expr.toList)[1] = stop at hs
    obtain ⟨hstart, hstop, rfl⟩ := comma_of_split hs
    rw [parse_of_comma hstart hstop]
    have hlettered := (withoutLetter_eq_iff stop _).mp rfl
    have hfirst := (Numeral.read_eq_iff start _).mp rfl
    have hsecond := (Numeral.read_eq_iff (withoutLetter stop) _).mp rfl
    cases ha : Numeral.read start with
    | error fault =>
      rw [ha] at hfirst
      rw [readNumber_of_error hfirst]
      exact .start hstart hstop hfirst
    | ok a =>
      rw [ha] at hfirst
      rw [readNumber_of_ok hfirst]
      cases hb : Numeral.read (withoutLetter stop) with
      | error fault =>
        rw [hb] at hsecond
        rw [readNumber_of_error hsecond]
        exact .stop hstart hstop hlettered hfirst hsecond
      | ok b =>
        rw [hb] at hsecond
        rw [readNumber_of_ok hsecond]
        exact .range hstart hstop hlettered hfirst hsecond
  · rw [parse_of_count hcount]
    exact .tokenCount hcount

/-- and nothing else. -/
theorem parse_of_denotes {expr : String} {result : Except RangeError LineRange}
    (h : Denotes expr result) : parse expr = result := by
  cases h with
  | range hstart hstop hlettered hfirst hsecond =>
    rw [parse_of_comma hstart hstop, readNumber_of_ok hfirst,
      (withoutLetter_eq_iff _ _).mpr hlettered, readNumber_of_ok hsecond]
    rfl
  | start hstart hstop hfirst =>
    rw [parse_of_comma hstart hstop, readNumber_of_error hfirst]
    rfl
  | stop hstart hstop hlettered hfirst hsecond =>
    rw [parse_of_comma hstart hstop, readNumber_of_ok hfirst,
      (withoutLetter_eq_iff _ _).mpr hlettered, readNumber_of_error hsecond]
    rfl
  | tokenCount hcount => exact parse_of_count hcount

/-- **Ranges are parsed as their language has it.** Every text says one thing as a range, a value or
what is wrong with it, and parsing gives just that. The text of any range whose ends are words of 64
bits, with or without the letter behind it, says that range. -/
theorem parse_iff :
    (∀ expr result, parse expr = result ↔ Denotes expr result) ∧
      ∀ (a b : Int64) (letter : Bool),
        let range : LineRange := ⟨a.toInt, b.toInt⟩
        parse (range.text ++ if letter then "p" else "") = .ok range := by
  refine ⟨fun expr result => ⟨fun h => h ▸ denotes_parse expr, parse_of_denotes⟩,
    fun a b letter => ?_⟩
  have hfits : Fits ⟨a.toInt, b.toInt⟩ := ⟨Numeral.fits_toInt a, Numeral.fits_toInt b⟩
  exact parse_text hfits letter

end LineRange
end StreamEditor
