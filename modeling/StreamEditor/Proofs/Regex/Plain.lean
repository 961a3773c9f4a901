/-
# Plain patterns

The scans for an unclosed delimiter know escaped characters, and they take a bracket that is not
escaped for the beginning or the end of a class. In a plain pattern brackets are nothing else. The
scans then may be followed along with a reading of the pattern: a cursor passes on to another if
from there on the scans come to the same, and what passes piece by piece passes as a whole.

Key definitions: `Regex.plainFrom`, `Regex.Cursor.Plain`, `Regex.Cursor.Passes`,
`Regex.Cursor.Reads`.
-/
import StreamEditor.Proofs.Result
import StreamEditor.Regex.Diagnosis

namespace StreamEditor
namespace Regex

/-! ### Plain text -/

/-- The text up to the character that ends the head of a group. -/
def headOf (cs : List Char) : List Char :=
  cs.takeWhile fun c => c != ':' && c != ')' && c != '>'

/-- Whether the head of a group is plain: if it is a name then it holds no opening bracket, and if
it is a list of flags then it does not switch to verbose mode. -/
def plainHead : List Char → Bool
  | '?' :: '<' :: cs => !(headOf cs).contains '['
  | '?' :: 'P' :: '<' :: cs => !(headOf cs).contains '['
  | '?' :: cs => !(headOf cs).contains 'x'
  | _ => true

/-- Whether a class begins plainly, without a closing bracket that stands for itself. -/
def plainOpening : List Char → Bool
  | ']' :: _ => false
  | '^' :: ']' :: _ => false
  | _ => true

/-- The characters that mean something to the scans, in a class and outside. A closing bracket
outside of a class closes nothing. -/
def special : Bool → List Char
  | true => ['\\', '[', ']']
  | false => ['\\', '[', '(', ')']

/-- Whether the name of a Unicode class is plain: nothing in it means anything to the scans. -/
def plainName (inClass : Bool) : List Char → Bool
  | '{' :: cs => (cs.takeWhile (· != '}')).all fun c => !(special inClass).contains c
  | c :: _ => !(special inClass).contains c
  | [] => true

/-- Whether a pattern is plain from some place on: in a class or outside, after a backslash or not.
The names of its Unicode classes and the heads of its groups are plain, and its classes hold no
brackets. -/
def plainFrom : Bool → Bool → List Char → Bool
  | _, _, [] => true
  | inClass, true, c :: cs =>
    (c != 'p' && c != 'P' || plainName inClass cs) && plainFrom inClass false cs
  | inClass, false, c :: cs =>
    if c == '\\' then plainFrom inClass true cs
    else if inClass then c != '[' && plainFrom (c != ']') false cs
    else if c == '[' then plainOpening cs && plainFrom true false cs
    else (c != '(' || plainHead cs) && plainFrom false false cs

/-- A plain pattern. -/
def PlainPattern (pattern : List Char) : Prop :=
  plainFrom false false pattern = true

instance (pattern : List Char) : Decidable (PlainPattern pattern) :=
  inferInstanceAs (Decidable (plainFrom false false pattern = true))

theorem plainFrom_ordinary {inClass : Bool} {c : Char} {cs : List Char}
    (hc : c ∉ special inClass) (h : plainFrom inClass false (c :: cs) = true) :
    plainFrom inClass false cs = true := by
  cases inClass with
  | true =>
    simp only [special, List.mem_cons, List.not_mem_nil, or_false, not_or] at hc
    have hclosing : (c != ']') = true := bne_iff_ne.mpr hc.2.2
    simpa [plainFrom, hc, hclosing] using h
  | false =>
    simp only [special, List.mem_cons, List.not_mem_nil, or_false, not_or] at hc
    simpa [plainFrom, hc] using h

theorem plainFrom_escape {inClass : Bool} {c : Char} {cs : List Char} :
    plainFrom inClass false ('\\' :: c :: cs) = true ↔
      (c = 'p' ∨ c = 'P' → plainName inClass cs = true) ∧ plainFrom inClass false cs = true := by
  by_cases hp : c = 'p' <;> by_cases hcapital : c = 'P' <;> simp [plainFrom, hp, hcapital]

/-- No bracket stands in a class but the one that closes it. -/
theorem not_plainFrom_bracket (cs : List Char) : ¬ plainFrom true false ('[' :: cs) = true := by
  simp [plainFrom]

theorem plainFrom_closing {cs : List Char} :
    plainFrom true false (']' :: cs) = true ↔ plainFrom false false cs = true := by
  simp [plainFrom]

theorem plainFrom_opening {cs : List Char} : plainFrom false false ('[' :: cs) = true ↔
    plainOpening cs = true ∧ plainFrom true false cs = true := by
  simp [plainFrom]

theorem plainFrom_parenthesis {cs : List Char} : plainFrom false false ('(' :: cs) = true ↔
    plainHead cs = true ∧ plainFrom false false cs = true := by
  simp [plainFrom]

theorem plainFrom_close {cs : List Char} :
    plainFrom false false (')' :: cs) = true ↔ plainFrom false false cs = true := by
  simp [plainFrom]

/-! ### The scans -/

/-- The scan for an unclosed group, from a cursor on. -/
def Cursor.scanGroups (c : Cursor) (inClass : Bool) (stack : List Nat) : Option Nat :=
  scanDelimiters '(' ')' c.rest c.pos.offset false inClass stack

/-- The scan for an unclosed class, from a cursor on. -/
def Cursor.scanClasses (c : Cursor) (stack : List Nat) : Option Nat :=
  scanDelimiters '[' ']' c.rest c.pos.offset false false stack

/-- What the scan for an unclosed class has on its stack, if classes do not nest. -/
def openClass? (opening : Nat) : Bool → List Nat
  | true => [opening]
  | false => []

theorem offset_after (p : Position) (c : Char) : (p.after c).offset = p.offset + 1 := by
  unfold Position.after
  split <;> rfl

section scans

variable {c : Cursor} {ch : Char} {cs : List Char}

theorem scanGroups_ordinary {inClass : Bool} (hrest : c.rest = ch :: cs)
    (hch : ch ∉ special inClass) (stack : List Nat) :
    c.scanGroups inClass stack = c.bump.scanGroups inClass stack := by
  cases inClass with
  | true =>
    simp only [special, List.mem_cons, List.not_mem_nil, or_false, not_or] at hch
    simp [Cursor.scanGroups, Cursor.bump, hrest, scanDelimiters, hch, offset_after]
  | false =>
    simp only [special, List.mem_cons, List.not_mem_nil, or_false, not_or] at hch
    simp [Cursor.scanGroups, Cursor.bump, hrest, scanDelimiters, hch, offset_after]

theorem scanClasses_ordinary {inClass : Bool} (hrest : c.rest = ch :: cs)
    (hch : ch ∉ special inClass) (opening : Nat) :
    c.scanClasses (openClass? opening inClass) =
      c.bump.scanClasses (openClass? opening inClass) := by
  cases inClass with
  | true =>
    simp only [special, List.mem_cons, List.not_mem_nil, or_false, not_or] at hch
    simp [Cursor.scanClasses, Cursor.bump, hrest, scanDelimiters, hch, offset_after]
  | false =>
    simp only [special, List.mem_cons, List.not_mem_nil, or_false, not_or] at hch
    by_cases hclosing : ch = ']' <;>
      simp [Cursor.scanClasses, Cursor.bump, hrest, scanDelimiters, hch, offset_after, openClass?,
        hclosing]

theorem scanGroups_escape {inClass : Bool} (hrest : c.rest = '\\' :: ch :: cs) (stack : List Nat) :
    c.scanGroups inClass stack = c.bump.bump.scanGroups inClass stack := by
  simp [Cursor.scanGroups, Cursor.bump, hrest, scanDelimiters, offset_after]

theorem scanClasses_escape (hrest : c.rest = '\\' :: ch :: cs) (stack : List Nat) :
    c.scanClasses stack = c.bump.bump.scanClasses stack := by
  simp [Cursor.scanClasses, Cursor.bump, hrest, scanDelimiters, offset_after]

theorem scanGroups_opening (hrest : c.rest = '[' :: cs) (stack : List Nat) :
    c.scanGroups false stack = c.bump.scanGroups true stack := by
  simp [Cursor.scanGroups, Cursor.bump, hrest, scanDelimiters, offset_after]

theorem scanClasses_opening (hrest : c.rest = '[' :: cs) :
    c.scanClasses [] = c.bump.scanClasses [c.pos.offset] := by
  simp [Cursor.scanClasses, Cursor.bump, hrest, scanDelimiters, offset_after]

theorem scanGroups_closing (hrest : c.rest = ']' :: cs) (stack : List Nat) :
    c.scanGroups true stack = c.bump.scanGroups false stack := by
  simp [Cursor.scanGroups, Cursor.bump, hrest, scanDelimiters, offset_after]

theorem scanClasses_closing (hrest : c.rest = ']' :: cs) (opening : Nat) :
    c.scanClasses [opening] = c.bump.scanClasses [] := by
  simp [Cursor.scanClasses, Cursor.bump, hrest, scanDelimiters, offset_after]

/-- A parenthesis concerns the scan for groups only. -/
theorem scanClasses_parenthesis (hrest : c.rest = ch :: cs) (hch : ch = '(' ∨ ch = ')') :
    c.scanClasses [] = c.bump.scanClasses [] := by
  rcases hch with rfl | rfl <;>
    simp [Cursor.scanClasses, Cursor.bump, hrest, scanDelimiters, offset_after]

theorem scanGroups_open (hrest : c.rest = '(' :: cs) (stack : List Nat) :
    c.scanGroups false stack = c.bump.scanGroups false (c.pos.offset :: stack) := by
  simp [Cursor.scanGroups, Cursor.bump, hrest, scanDelimiters, offset_after]

theorem scanGroups_close (hrest : c.rest = ')' :: cs) (stack : List Nat) :
    c.scanGroups false stack = c.bump.scanGroups false stack.tail := by
  simp [Cursor.scanGroups, Cursor.bump, hrest, scanDelimiters, offset_after]

end scans

namespace Cursor

/-- A cursor in a plain pattern, in a class or outside, where blanks count. -/
structure Plain (inClass : Bool) (c : Cursor) : Prop where
  text : plainFrom inClass false c.rest = true
  spaced : c.verbose = false

/-- The scans come to the same from two cursors on, of which the first is not behind the second,
and the pattern is plain from the second on. -/
structure Passes (inClass : Bool) (c d : Cursor) : Prop where
  plain : d.Plain inClass
  read : ∃ text, c.rest = text ++ d.rest ∧ d.pos.offset = c.pos.offset + text.length
  groups : ∀ stack, c.scanGroups inClass stack = d.scanGroups inClass stack
  classes : ∀ opening,
    c.scanClasses (openClass? opening inClass) = d.scanClasses (openClass? opening inClass)

variable {inClass : Bool} {c d e : Cursor} {ch : Char} {cs : List Char}

theorem rest_of_head? (h : (c.rest.head? == some ch) = true) : ∃ cs, c.rest = ch :: cs :=
  List.head?_eq_some_iff.mp (beq_iff_eq.mp h)

theorem bump_rest (hrest : c.rest = ch :: cs) : c.bump.rest = cs := by
  rw [bump, hrest]

theorem bump_offset (hrest : c.rest = ch :: cs) : c.bump.pos.offset = c.pos.offset + 1 := by
  rw [bump, hrest]
  exact offset_after _ _

theorem read_bump (hrest : c.rest = ch :: cs) :
    c.rest = [ch] ++ c.bump.rest ∧ c.bump.pos.offset = c.pos.offset + [ch].length :=
  ⟨by rw [bump_rest hrest, hrest]; rfl, bump_offset hrest⟩

@[simp] theorem bump_verbose (c : Cursor) : c.bump.verbose = c.verbose := by
  unfold bump
  split <;> rfl

theorem Plain.skip_eq (h : c.Plain inClass) : c.skip = c := by
  rw [skip, h.spaced]
  rfl

theorem next_of_spaced (h : c.verbose = false) : c.next = c.bump := by
  rw [next, skip, bump_verbose, h]
  rfl

theorem Plain.next_eq (h : c.Plain inClass) : c.next = c.bump :=
  next_of_spaced h.spaced

/-- Where blanks count, the next character but one is just that. -/
theorem Plain.peek?_eq (h : c.Plain inClass) : c.peek? = c.rest.tail.head? := by
  rw [peek?, h.spaced]
  rfl

/-- Where blanks count, all characters of a kind are taken. -/
theorem Plain.takeSpaced_rest {p : Char → Bool} (h : c.Plain inClass) :
    (c.takeSpaced p).2.rest = c.rest.dropWhile p := by
  have hloop : ∀ (fuel : Nat) (taken : List Char) (c : Cursor), c.verbose = false →
      c.rest.length ≤ fuel → (takeSpacedFrom p fuel taken c).2.rest = c.rest.dropWhile p := by
    intro fuel taken c h hfuel
    fun_induction takeSpacedFrom p fuel taken c with
    | case1 => rw [List.eq_nil_of_length_eq_zero (Nat.le_zero.mp hfuel), List.dropWhile_nil]
    | case2 fuel taken c ch cs hrest hch ih =>
      have hshorter : c.bump.rest.length ≤ fuel := by
        rw [hrest, List.length_cons] at hfuel
        rw [bump_rest hrest]
        omega
      rw [next_of_spaced h] at ih ⊢
      rw [ih (by rw [bump_verbose, h]) hshorter, bump_rest hrest, hrest,
        List.dropWhile_cons_of_pos hch]
    | case3 fuel taken c ch cs hrest hch => rw [hrest, List.dropWhile_cons_of_neg hch]
    | case4 fuel taken c hrest => rw [hrest, List.dropWhile_nil]
  exact hloop c.rest.length [] c h.spaced (Nat.le_refl _)

theorem Plain.passes (h : c.Plain inClass) : c.Passes inClass c :=
  ⟨h, ⟨[], rfl, rfl⟩, fun _ => rfl, fun _ => rfl⟩

namespace Passes

theorem trans (h : c.Passes inClass d) (k : d.Passes inClass e) : c.Passes inClass e := by
  obtain ⟨text, hrest, hpos⟩ := h.read
  obtain ⟨more, hrest', hpos'⟩ := k.read
  refine ⟨k.plain, ⟨text ++ more, ?_, ?_⟩, fun stack => (h.groups stack).trans (k.groups stack),
    fun opening => (h.classes opening).trans (k.classes opening)⟩
  · rw [hrest, hrest', List.append_assoc]
  · rw [hpos', hpos, List.length_append, Nat.add_assoc]

theorem length_le (h : c.Passes inClass d) : d.rest.length ≤ c.rest.length := by
  obtain ⟨text, hrest, -⟩ := h.read
  rw [hrest, List.length_append]
  exact Nat.le_add_left _ _

end Passes

/-- A character that means nothing to the scans is passed. -/
theorem Plain.passes_bump (h : c.Plain inClass) (hrest : c.rest = ch :: cs)
    (hch : ch ∉ special inClass) : c.Passes inClass c.bump := by
  have htext := h.text
  rw [hrest] at htext
  have hbehind : c.bump.Plain inClass :=
    ⟨by rw [bump_rest hrest]; exact plainFrom_ordinary hch htext, by rw [bump_verbose, h.spaced]⟩
  exact ⟨hbehind, ⟨[ch], read_bump hrest⟩, scanGroups_ordinary hrest hch,
    scanClasses_ordinary hrest hch⟩

/-- Several such characters are passed. -/
theorem Plain.passes_bumps : ∀ (text : List Char) {c : Cursor}, c.Plain inClass →
    c.rest = text ++ cs → text.any (special inClass).contains = false →
      c.Passes inClass (bumps text.length c) ∧ (bumps text.length c).rest = cs
  | [], _, h, hrest, _ => ⟨h.passes, hrest⟩
  | ch :: text, _, h, hrest, htext => by
    obtain ⟨hch, htext⟩ := Bool.or_eq_false_iff.mp htext
    have hbump := h.passes_bump hrest (by simpa using hch)
    have ih := passes_bumps text hbump.plain (bump_rest hrest) htext
    exact ⟨hbump.trans ih.1, ih.2⟩

theorem Plain.passes_next (h : c.Plain inClass) (hrest : c.rest = ch :: cs)
    (hch : ch ∉ special inClass) : c.Passes inClass c.next := by
  rw [h.next_eq]
  exact h.passes_bump hrest hch

/-- So is a character after a backslash. -/
theorem Plain.passes_escape (h : c.Plain inClass) (hrest : c.rest = '\\' :: ch :: cs) :
    c.Passes inClass c.bump.bump := by
  have htext := h.text
  rw [hrest, plainFrom_escape] at htext
  have hnext := bump_rest hrest
  refine ⟨⟨by rw [bump_rest hnext]; exact htext.2, by rw [bump_verbose, bump_verbose, h.spaced]⟩,
    ⟨['\\', ch], by rw [bump_rest hnext, hrest]; rfl, ?_⟩, scanGroups_escape hrest,
    fun _ => scanClasses_escape hrest _⟩
  rw [bump_offset hnext, bump_offset hrest]
  rfl

/-- A parenthesis that closes a group concerns the scan for groups, but behind it the pattern is
plain still. -/
theorem Plain.bump_close (h : c.Plain false) (hrest : c.rest = ')' :: cs) :
    c.bump.Plain false := by
  have htext := h.text
  rw [hrest, plainFrom_close] at htext
  exact ⟨by rw [bump_rest hrest]; exact htext, by rw [bump_verbose, h.spaced]⟩

/-- The scans come to the same from two cursors on, of which the second is ahead of the first. -/
structure Advances (inClass : Bool) (c d : Cursor) : Prop extends c.Passes inClass d where
  shorter : d.rest.length < c.rest.length

theorem Plain.advances_bump (h : c.Plain inClass) (hrest : c.rest = ch :: cs)
    (hch : ch ∉ special inClass) : c.Advances inClass c.bump :=
  ⟨h.passes_bump hrest hch, by rw [bump_rest hrest, hrest]; exact Nat.lt_succ_self _⟩

theorem Plain.advances_escape (h : c.Plain inClass) (hrest : c.rest = '\\' :: ch :: cs) :
    c.Advances inClass c.bump.bump := by
  refine ⟨h.passes_escape hrest, ?_⟩
  rw [bump_rest (bump_rest hrest), hrest, List.length_cons, List.length_cons]
  omega

namespace Advances

theorem passing (h : c.Advances inClass d) (k : d.Passes inClass e) : c.Advances inClass e :=
  ⟨h.toPasses.trans k, Nat.lt_of_le_of_lt k.length_le h.shorter⟩

theorem bump (h : c.Advances inClass d) (hrest : d.rest = ch :: cs) (hch : ch ∉ special inClass) :
    c.Advances inClass d.bump :=
  h.passing (h.plain.passes_bump hrest hch)

theorem next (h : c.Advances inClass d) (hrest : d.rest = ch :: cs) (hch : ch ∉ special inClass) :
    c.Advances inClass d.next :=
  h.passing (h.plain.passes_next hrest hch)

/-- Characters of a kind are passed if none of those that stand there means anything to the
scans. -/
theorem takeSpaced_of_takeWhile {p : Char → Bool} (h : c.Advances inClass d)
    (htext : ∀ ch ∈ d.rest.takeWhile p, ch ∉ special inClass) :
    c.Advances inClass (d.takeSpaced p).2 := by
  have hloop : ∀ (fuel : Nat) (taken : List Char) (d : Cursor), c.Advances inClass d →
      (∀ ch ∈ d.rest.takeWhile p, ch ∉ special inClass) →
        c.Advances inClass (takeSpacedFrom p fuel taken d).2 := by
    intro fuel taken d h htext
    fun_induction takeSpacedFrom p fuel taken d with
    | case1 => exact h
    | case2 fuel taken d ch cs hrest hch ih =>
      rw [hrest, List.takeWhile_cons_of_pos hch, List.forall_mem_cons] at htext
      refine ih (h.next hrest htext.1) ?_
      rw [h.plain.next_eq, bump_rest hrest]
      exact htext.2
    | case3 => exact h
    | case4 => exact h
  exact hloop d.rest.length [] d h htext

/-- So they are if none of the kind does. -/
theorem takeSpaced {p : Char → Bool} (h : c.Advances inClass d)
    (hp : (special inClass).any p = false) : c.Advances inClass (d.takeSpaced p).2 :=
  h.takeSpaced_of_takeWhile fun ch hmem hspecial =>
    List.any_eq_false.mp hp ch hspecial (List.all_eq_true.mp List.all_takeWhile ch hmem)

end Advances

/-- What reading from a cursor on comes to: it stops at a cursor ahead, or at a fault of which
`fault` holds. -/
def Reads {α : Type} (fault : SyntaxError → Prop) (inClass : Bool) (c : Cursor) :
    Except SyntaxError (α × Cursor) → Prop :=
  Result.Ends (fun read => c.Advances inClass read.2) fault

/-- What is read from a cursor ahead is read from this one on. -/
theorem Advances.reads {α : Type} {fault : SyntaxError → Prop} {x : Except SyntaxError (α × Cursor)}
    (h : c.Advances inClass d) (k : d.Reads fault inClass x) : c.Reads fault inClass x :=
  k.mono (fun _ hread => h.passing hread.toPasses) fun _ => id

end Cursor

/-- A fault that is neither an unclosed group nor an unclosed class. -/
def SyntaxError.Closed (e : SyntaxError) : Prop :=
  (e.fault == .groupUnclosed || e.fault == .classUnclosed) = false

theorem SyntaxError.closed_iff {e : SyntaxError} :
    e.Closed ↔ e.fault ≠ .groupUnclosed ∧ e.fault ≠ .classUnclosed := by
  rw [Closed, Bool.or_eq_false_iff, beq_eq_false_iff_ne, beq_eq_false_iff_ne]

end Regex
end StreamEditor
