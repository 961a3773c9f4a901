/-
# One argument and the switch for debugging

Two readings of arguments go on beside each other, one of which has the switch for debugging among
what it has taken. They take the same of what follows, with that switch among it, and refuse the
same, though the usage may be told differently. Where the switch is read, what was read before it is
taken, which without the switch waits for the next argument. So for one argument the two are only
near each other (`Near`), and reading that argument brings them level (`take_alike`).

Key definitions: `Refusal.Alike`, `CommandLine.Taken.Level`, `CommandLine.Near`,
`CommandLine.Alike`, `CommandLine.take`.
Key theorem: `CommandLine.take_alike`.
-/
import Mathlib.Data.List.TakeWhile
import StreamEditor.CommandLine
import StreamEditor.Proofs.Result
import StreamEditor.Proofs.Text.Utf8

namespace StreamEditor

/-- Two refusals that show the same on the standard output and end with the same status. -/
def Refusal.Alike : Refusal → Refusal → Prop
  | .misuse _, .misuse _ => True
  | r, r' => r = r'

theorem Refusal.Alike.refl (r : Refusal) : r.Alike r := by
  cases r <;> simp [Alike]

namespace CommandLine

/-- The argument that gives the switch for debugging. -/
def debugArgument : Bytes := bytesOf "--debug"

/-- The arguments that take the next one for their value. -/
def awaiting : List Bytes :=
  (Switch.names.filter fun (_, s) => s.valueName?.isSome).map fun (name, _) => bytesOf ("--" ++ name)

/-! ### What is taken with the switch and without -/

/-- The switch for debugging is not taken, and does not wait for a value, since it takes none. -/
structure Taken.Sound (t : Taken) : Prop where
  untaken : .debug ∉ t.switches
  pending : ∀ value, t.pending ≠ some (.value .debug value)

/-- The second takes what the first does, and the switch for debugging. -/
inductive Taken.Level (t : Taken) : Taken → Prop
  | intro {switches : List Switch} : t.Sound → (∀ s, s ∈ switches ↔ s = .debug ∨ s ∈ t.switches) →
      Level t { t with switches }

/-- The second takes what the first does, and the switch for debugging; or it also takes what the
first has read and not taken yet. -/
inductive Near (t t' : Taken) : Prop
  | level : t.Level t' → Near t t'
  | ahead {t₁ : Taken} : awaitsValue t = none → settle t = (none, t₁) → t₁.Level t' → Near t t'

/-- Two readings: what they take is related, or the second refuses what the first does. -/
def Alike (related : Taken → Taken → Prop) : Except Refusal Taken → Except Refusal Taken → Prop
  | .ok t, .ok t' => related t t'
  | .error r, .error r' => r.Alike r'
  | _, _ => False

/-- Two steps: what they take is level, or they find the same misuse. -/
def StepsAlike : Option Misuse × Taken → Option Misuse × Taken → Prop
  | (none, t), (m, t') => m = none ∧ t.Level t'
  | (some m, _), (m', _) => m' = some m

section
variable {related related' : Taken → Taken → Prop} {x x' : Except Refusal Taken}

theorem Alike.of_ok {t : Taken} (h : Alike related (.ok t) x') : ∃ t', x' = .ok t' ∧ related t t' := by
  cases x' with
  | error r' => exact h.elim
  | ok t' => exact ⟨t', rfl, h⟩

theorem Alike.of_error {r : Refusal} (h : Alike related (.error r) x') :
    ∃ r', x' = .error r' ∧ r.Alike r' := by
  cases x' with
  | error r' => exact ⟨r', rfl, h⟩
  | ok t' => exact h.elim

theorem Alike.bind {f : Taken → Except Refusal Taken} (h : Alike related x x')
    (hf : ∀ t t', related t t' → Alike related' (f t) (f t')) :
    Alike related' (x >>= f) (x' >>= f) := by
  cases x with
  | error r =>
    obtain ⟨r', rfl, hr⟩ := h.of_error
    exact hr
  | ok t =>
    obtain ⟨t', rfl, ht⟩ := h.of_ok
    exact hf t t' ht

theorem Alike.mono (h : Alike related x x') (hrelated : ∀ t t', related t t' → related' t t') :
    Alike related' x x' := by
  cases x with
  | error r =>
    obtain ⟨r', rfl, hr⟩ := h.of_error
    exact hr
  | ok t =>
    obtain ⟨t', rfl, ht⟩ := h.of_ok
    exact hrelated t t' ht

end

variable {t t' t₁ : Taken} {called : String} {arg : Bytes}

theorem Taken.Sound.level (h : t.Sound) : t.Level { t with switches := .debug :: t.switches } :=
  .intro h fun _ => List.mem_cons

theorem Taken.Level.sound : t.Level t' → t.Sound
  | .intro h _ => h

/-! ### Taking arguments -/

theorem Taken.Level.contains (h : t.Level t') {s : Switch} (hs : s ≠ .debug) :
    t'.switches.contains s = t.switches.contains s := by
  obtain ⟨-, hswitches⟩ := h
  rw [Bool.eq_iff_iff, List.contains_iff_mem, List.contains_iff_mem, hswitches]
  exact or_iff_right hs

theorem takeSwitch_alike {s : Switch} (hs : s ≠ .debug) (h : t.Level t') :
    StepsAlike (takeSwitch s t) (takeSwitch s t') := by
  rw [takeSwitch, takeSwitch, h.contains hs]
  obtain ⟨hsound, hswitches⟩ := h
  split
  · rfl
  · refine ⟨rfl, .intro ⟨?_, hsound.pending⟩ fun s' => ?_⟩
    · exact List.not_mem_cons_of_ne_of_not_mem (Ne.symm hs) hsound.untaken
    · rw [List.mem_cons, List.mem_cons, hswitches]
      exact or_left_comm

theorem takeValue_alike {s : Switch} (hs : s ≠ .debug) (value : Bytes) (h : t.Level t') :
    StepsAlike (takeValue s value t) (takeValue s value t') := by
  have hswitch := takeSwitch_alike hs h
  unfold takeValue
  cases hfirst : takeSwitch s t with
  | mk m t₁ =>
    cases hsecond : takeSwitch s t' with
    | mk m' t₁' =>
      rw [hfirst, hsecond] at hswitch
      cases m with
      | some m =>
        obtain rfl : m' = some m := hswitch
        rfl
      | none =>
        obtain ⟨rfl, hsound, hswitches⟩ := hswitch
        have hsound' : ∀ semantics config, Taken.Sound { t₁ with semantics, config } := fun _ _ =>
          ⟨hsound.untaken, hsound.pending⟩
        simp only
        split
        · split
          · exact ⟨rfl, .intro (hsound' _ _) hswitches⟩
          · split <;> rfl
        · split
          · rfl
          · exact ⟨rfl, .intro (hsound' _ _) hswitches⟩

theorem takeSwitch_keeps (s : Switch) (t : Taken) : (takeSwitch s t).2.pending = t.pending ∧
    (takeSwitch s t).2.operands = t.operands := by
  unfold takeSwitch
  split <;> exact ⟨rfl, rfl⟩

theorem takeValue_keeps (s : Switch) (value : Bytes) (t : Taken) :
    (takeValue s value t).2.pending = t.pending ∧
      (takeValue s value t).2.operands = t.operands := by
  have hkeeps := takeSwitch_keeps s t
  unfold takeValue
  cases hswitch : takeSwitch s t with
  | mk m t₁ =>
    rw [hswitch] at hkeeps
    cases m with
    | some m => exact hkeeps
    | none =>
      simp only
      repeat' split
      all_goals exact hkeeps

/-- Taking what was read leaves nothing to take. -/
theorem pending_of_settle (h : settle t = (none, t₁)) :
    t₁.pending = none ∧ t₁.operands = t.operands := by
  unfold settle at h
  cases hpending : t.pending with
  | none =>
    simp only [hpending] at h
    cases h
    exact ⟨hpending, rfl⟩
  | some pending =>
    simp only [hpending] at h
    cases pending with
    | value s value =>
      cases value with
      | none => cases h
      | some value =>
        have hkeeps := takeValue_keeps s value { t with pending := none }
        change takeValue s value { t with pending := none } = _ at h
        rw [h] at hkeeps
        exact hkeeps
    | directive arg =>
      simp only at h
      split at h <;> cases h
      exact ⟨rfl, rfl⟩
    | file arg =>
      simp only at h
      split at h <;> cases h
      exact ⟨rfl, rfl⟩

theorem settle_of_pending_none (h : t.pending = none) : settle t = (none, t) := by
  unfold settle
  rw [h]

theorem settle_level (h : t.Level t') : StepsAlike (settle t) (settle t') := by
  have hlevel := h
  obtain ⟨hsound, hswitches⟩ := h
  obtain ⟨directive, file, config, semantics, switches, pending, operands⟩ := t
  cases pending with
  | none => exact ⟨rfl, hlevel⟩
  | some pending =>
    cases pending with
    | value s value =>
      have hs : s ≠ .debug := by
        rintro rfl
        exact hsound.pending value rfl
      cases value with
      | none => rfl
      | some value => exact takeValue_alike hs value (.intro ⟨hsound.untaken, nofun⟩ hswitches)
    | directive arg =>
      simp only [settle]
      split
      · exact ⟨rfl, .intro ⟨hsound.untaken, nofun⟩ hswitches⟩
      · rfl
    | file arg =>
      simp only [settle]
      split
      · rfl
      · exact ⟨rfl, .intro ⟨hsound.untaken, nofun⟩ hswitches⟩

/-- Taking what was read brings the second level with the first. -/
theorem settle_alike (h : Near t t') : StepsAlike (settle t) (settle t') := by
  cases h with
  | level h => exact settle_level h
  | ahead _ hsettle h =>
    have hlevel := settle_level h
    rw [settle_of_pending_none (pending_of_settle hsettle).1] at hlevel
    rwa [hsettle]

/-- Whatever goes on once the argument that is not yet taken is. -/
theorem settled_alike {related : Taken → Taken → Prop} {next next' : Taken → Except Refusal Taken}
    (h : Near t t')
    (hnext : ∀ t t', t.Level t' → t.pending = none → Alike related (next t) (next' t')) :
    Alike related (settled called t next) (settled called t' next') := by
  have hsettle := settle_alike h
  unfold settled
  cases hfirst : settle t with
  | mk m t₁ =>
    cases hsecond : settle t' with
    | mk m' t₁' =>
      rw [hfirst, hsecond] at hsettle
      cases m with
      | some m =>
        obtain rfl : m' = some m := hsettle
        trivial
      | none =>
        obtain ⟨rfl, hlevel⟩ := hsettle
        exact hnext t₁ t₁' hlevel (pending_of_settle hfirst).1

theorem operands_eq (h : Near t t') : t'.operands = t.operands := by
  cases h with
  | level h =>
    cases h
    rfl
  | ahead _ hsettle h =>
    cases h
    exact (pending_of_settle hsettle).2

/-! ### Reading arguments -/

/-- Level readings that have nothing left to take. -/
def Settled (t t' : Taken) : Prop := t.Level t' ∧ t.pending = none

/-- What a reading comes to whose last step this is. -/
def concluded (called : String) : Option Misuse × Taken → Except Refusal Taken
  | (some m, _) => .error (.misuse (m.message called))
  | (none, t) => .ok t

theorem StepsAlike.concluded {step step' : Option Misuse × Taken} (h : StepsAlike step step')
    (hpending : step.2.pending = none) :
    Alike Settled (concluded called step) (concluded called step') := by
  obtain ⟨m, t⟩ := step
  obtain ⟨m', t'⟩ := step'
  cases m with
  | some m =>
    obtain rfl : m' = some m := h
    trivial
  | none =>
    obtain ⟨rfl, hlevel⟩ := h
    exact ⟨hlevel, hpending⟩

theorem readSwitch_alike {s : Switch} (hs : s ≠ .debug) (long : Bool) (h : Near t t') :
    Alike Settled (readSwitch called s long t) (readSwitch called s long t') := by
  refine settled_alike h fun t t' h hpending => ?_
  split
  · rfl
  · exact (takeSwitch_alike hs h).concluded ((takeSwitch_keeps s t).1.trans hpending)

/-- The first letter takes what was read before. -/
theorem readLetter_alike {broken : Bytes} {c : Char} {letters : List Char} (h : Near t t')
    (hletters : ∀ t t', Settled t t' → Alike Settled (readLetters called broken letters t)
      (readLetters called broken letters t')) :
    Alike Settled (readLetters called broken (c :: letters) t)
      (readLetters called broken (c :: letters) t') := by
  rw [readLetters, readLetters]
  cases hs : Switch.ofLetter? c with
  | none => trivial
  | some s =>
    have hne : s ≠ .debug := by
      rintro rfl
      unfold Switch.ofLetter? at hs
      split at hs <;> cases hs
    exact (readSwitch_alike hne false h).bind hletters

theorem readLetters_settled (broken : Bytes) : ∀ (letters : List Char) (t t' : Taken),
    Settled t t' → Alike Settled (readLetters called broken letters t)
      (readLetters called broken letters t')
  | [], t, t', h => by
    rw [readLetters, readLetters]
    split
    · exact h
    · trivial
  | _ :: letters, t, t', h =>
    readLetter_alike (.level h.1) (readLetters_settled broken letters)

theorem readLetters_alike {broken : Bytes} {letters : List Char}
    (hsome : letters = [] → broken.isEmpty = false) (h : Near t t') :
    Alike Settled (readLetters called broken letters t) (readLetters called broken letters t') := by
  cases letters with
  | nil =>
    rw [readLetters, readLetters, hsome rfl]
    trivial
  | cons c letters => exact readLetter_alike h (readLetters_settled broken letters)

/-- Behind a hyphen there is a letter, or a byte that is none. -/
theorem splitText_cons (b : UInt8) (text : Bytes) :
    (splitText 0 (b :: text)).1 = [] → (splitText 0 (b :: text)).2.isEmpty = false := by
  unfold splitText
  split
  · exact nofun
  · exact fun _ => rfl

/-- Only one argument has the name of a switch behind two hyphens. -/
theorem eq_of_ofName? {name : Bytes} {s : Switch}
    (h : (Utf8.decode? name).bind Switch.ofName? = some s) :
    ∃ text, (text, s) ∈ Switch.names ∧ name = bytesOf text := by
  obtain ⟨text, hdecode, hname⟩ := Option.bind_eq_some_iff.mp h
  obtain ⟨before, after, hnames, -⟩ := List.lookup_eq_some_iff.mp hname
  have hmem : (text, s) ∈ Switch.names := by
    rw [hnames]
    exact List.mem_append_right _ List.mem_cons_self
  have hascii : ∀ entry ∈ Switch.names,
      (entry.1.toList.all fun c => decide (0 < c.toNat ∧ c.toNat < 128)) = true ∧
        (entry.1.toList.map fun c => UInt8.ofNat c.toNat) = bytesOf entry.1 := by decide
  obtain ⟨hall, hbytes⟩ := hascii _ hmem
  exact ⟨text, hmem, (Utf8.decode?_ascii hdecode hall).trans hbytes⟩

/-- Level readings; none of the switches waits for its value, unless the argument read last is one
for which it does. -/
def Took (arg : Bytes) (t t' : Taken) : Prop :=
  t.Level t' ∧ (arg ∉ awaiting → awaitsValue t = none)

theorem awaitsValue_of_pending_none (h : t.pending = none) : awaitsValue t = none := by
  unfold awaitsValue
  rw [h]

theorem Settled.took (arg : Bytes) (h : Settled t t') : Took arg t t' :=
  ⟨h.1, fun _ => awaitsValue_of_pending_none h.2⟩

theorem takeWhile_of_not_contains {text : Bytes} {b : UInt8} (h : ¬ text.contains b = true) :
    text.takeWhile (· != b) = text := by
  refine List.takeWhile_eq_self_iff.mpr fun c hc => bne_iff_ne.mpr ?_
  rintro rfl
  exact h (List.contains_iff_mem.mpr hc)

/-- The name of a switch that takes a value is one that waits for it. -/
theorem mem_awaiting {name : String} {s : Switch} (hname : (name, s) ∈ Switch.names)
    (hs : s.valueName?.isSome = true) : hyphen :: hyphen :: bytesOf name ∈ awaiting := by
  have hall : ∀ entry ∈ Switch.names, entry.2.valueName?.isSome = true →
      hyphen :: hyphen :: bytesOf entry.1 ∈ awaiting := by decide
  exact hall _ hname hs

/-- A switch that waits for its value is taken once that is read. -/
theorem await_alike {s : Switch} (hne : s ≠ .debug) (harg : arg ∈ awaiting) (h : Near t t') :
    Alike (Took arg)
      (settled called t fun t => .ok { t with pending := some (.value s none) })
      (settled called t' fun t => .ok { t with pending := some (.value s none) }) := by
  refine settled_alike h fun t t' h _ => ⟨?_, fun hnot => absurd harg hnot⟩
  obtain ⟨hsound, hswitches⟩ := h
  exact .intro ⟨hsound.untaken, fun _ hpending => hne (by cases hpending; rfl)⟩ hswitches

/-- A name behind two hyphens takes what was read before, if it is that of a switch. -/
theorem readName_alike {text : Bytes} (htext : hyphen :: hyphen :: text ≠ debugArgument)
    (h : Near t t') : Alike (Took (hyphen :: hyphen :: text)) (readName called text t)
      (readName called text t') := by
  unfold readName
  simp only
  cases hname : (Utf8.decode? (text.takeWhile (· != 61))).bind Switch.ofName? with
  | none => trivial
  | some s =>
    by_cases hvalue : text.contains 61 = true
    · simp only [if_pos hvalue]
      by_cases hs : s.valueName?.isSome = true
      · have hne : s ≠ .debug := by
          rintro rfl
          exact absurd hs (by decide)
        rw [if_pos hs, if_pos hs]
        refine settled_alike h fun t t' h hpending => ?_
        have hvalue := takeValue_alike hne (text.drop ((text.takeWhile (· != 61)).length + 1)) h
        exact (hvalue.concluded ((takeValue_keeps s _ t).1.trans hpending)).mono
          fun t t' h => h.took _
      · rw [if_neg hs, if_neg hs]
        trivial
    · rw [takeWhile_of_not_contains hvalue] at hname
      obtain ⟨name, hmem, rfl⟩ := eq_of_ofName? hname
      have hne : s ≠ .debug := by
        rintro rfl
        obtain rfl : name = "debug" := by simpa [Switch.names] using hmem
        exact htext rfl
      simp only [if_neg hvalue]
      split
      · next hs => exact await_alike hne (mem_awaiting hmem hs) h
      · exact (readSwitch_alike hne true h).mono fun t t' h => h.took _

theorem readOperand_alike (arg : Bytes) (h : Near t t') :
    Alike (Took arg) (readOperand called arg t) (readOperand called arg t') := by
  have hoperand : ∀ {t t' : Taken}, t.Level t' → ∀ (pending : Pending) (operands : Nat),
      (∀ s value, pending ≠ .value s value) →
        Took arg { t with pending := some pending, operands }
          { t' with pending := some pending, operands } := by
    intro t t' h pending operands hpending
    obtain ⟨hsound, hswitches⟩ := h
    refine ⟨.intro ⟨hsound.untaken, fun value hvalue => hpending _ _ (Option.some.inj hvalue)⟩
      hswitches, fun _ => ?_⟩
    cases pending with
    | value s value => exact absurd rfl (hpending s value)
    | _ => rfl
  unfold readOperand
  rw [operands_eq h]
  match t.operands with
  | 0 => exact settled_alike h fun t t' h _ => hoperand h _ _ nofun
  | 1 => exact settled_alike h fun t t' h _ => hoperand h _ _ nofun
  | _ + 2 => trivial

/-! ### One argument -/

/-- Takes an argument that may be a switch. -/
def take (called : String) (arg : Bytes) (t : Taken) : Except Refusal Taken :=
  match arg with
  | 45 :: 45 :: text => readName called text t
  | 45 :: b :: text => readLetters called (splitText 0 (b :: text)).2 (splitText 0 (b :: text)).1 t
  | _ =>
    match awaitsValue t with
    | some s => .ok { t with pending := some (.value s (some arg)) }
    | none => readOperand called arg t

theorem read_cons (harg : arg ≠ [hyphen, hyphen]) (args : List Bytes) :
    read called false (arg :: args) t = take called arg t >>= read called false args := by
  unfold read
  split
  · exact absurd rfl harg
  · rfl
  · next hother =>
    rw [take]
    exact hother
  · next hname hletters =>
    rw [take]
    · cases awaitsValue t <;> rfl
    · exact hname
    · exact hletters

theorem awaitsValue_eq (h : Near t t') : awaitsValue t' = awaitsValue t := by
  cases h with
  | level h =>
    cases h
    rfl
  | ahead hnone hsettle h =>
    cases h
    rw [hnone]
    exact awaitsValue_of_pending_none (pending_of_settle hsettle).1

/-- **One argument brings two readings level**, or it is refused in both. -/
theorem take_alike (called : String) (harg : arg ≠ debugArgument) (h : Near t t') :
    Alike (Took arg) (take called arg t) (take called arg t') := by
  unfold take
  split
  · exact readName_alike harg h
  · next b text _ =>
    exact (readLetters_alike (splitText_cons b text) h).mono fun t t' h => h.took _
  · rw [awaitsValue_eq h]
    split
    · next s hs =>
      cases h with
      | ahead hnone => exact absurd (hnone.symm.trans hs) nofun
      | level h =>
        have hpending : t.pending = some (.value s none) := by
          unfold awaitsValue at hs
          split at hs
          · next hp => rw [hp, Option.some.inj hs]
          · cases hs
        obtain ⟨hsound, hswitches⟩ := h
        refine ⟨.intro ⟨hsound.untaken, fun value hvalue => ?_⟩ hswitches, fun _ => rfl⟩
        cases hvalue
        exact hsound.pending _ hpending
    · exact readOperand_alike arg h

/-! ### What was read and cannot be taken -/

section
variable {m : Misuse} (hnone : awaitsValue t = none) (hsettle : settle t = (some m, t₁))
include hsettle

theorem settled_refused (next : Taken → Except Refusal Taken) :
    settled called t next = .error (.misuse (m.message called)) := by
  unfold settled
  rw [hsettle]

theorem readOperand_refused (called : String) (arg : Bytes) :
    ∃ text, readOperand called arg t = .error (.misuse text) := by
  unfold readOperand
  match t.operands with
  | 0 => exact ⟨_, settled_refused hsettle _⟩
  | 1 => exact ⟨_, settled_refused hsettle _⟩
  | _ + 2 => exact ⟨_, rfl⟩

include hnone

/-- The next argument is refused, for what was read before or for a fault of its own. -/
theorem take_refused (called : String) (arg : Bytes) :
    ∃ text, take called arg t = .error (.misuse text) := by
  unfold take
  split
  · unfold readName
    simp only
    split
    · split
      · exact ⟨_, settled_refused hsettle _⟩
      · exact ⟨_, rfl⟩
    · split
      · exact ⟨_, settled_refused hsettle _⟩
      · exact ⟨_, settled_refused hsettle _⟩
    · exact ⟨_, rfl⟩
  · next b text _ =>
    have hsome := splitText_cons b text
    generalize splitText 0 (b :: text) = split at hsome
    obtain ⟨letters, broken⟩ := split
    cases letters with
    | nil =>
      rw [readLetters, hsome rfl]
      exact ⟨_, rfl⟩
    | cons c letters =>
      rw [readLetters]
      split
      · exact ⟨_, by rw [readSwitch, settled_refused hsettle]; rfl⟩
      · exact ⟨_, rfl⟩
  · rw [hnone]
    exact readOperand_refused hsettle called arg

end

end CommandLine
end StreamEditor
