/-
# Arguments with one switch more

The switch for debugging among other arguments, where a switch can be given, changes nothing in how
these are read, as long as they do not give it again: what is taken is the same, with that switch
among it, and what is refused is refused, though the usage may be told differently.

Key definition: `CommandLine.Admits`.
Key theorems: `CommandLine.read_alike`, `CommandLine.read_inserted`, `Arguments.read_debug`.
-/
import StreamEditor.Proofs.CommandLine.Taking

namespace StreamEditor
namespace CommandLine

/-- Behind some arguments a switch can be given: switches have not ended, and none waits for its
value. -/
structure Admits (before : List Bytes) : Prop where
  goesOn : [hyphen, hyphen] ∉ before
  settled : ∀ arg ∈ before.getLast?, arg ∉ awaiting

variable {t t₁ : Taken} {called : String}

/-! ### The arguments behind the switch -/

theorem readOperands_alike : ∀ (args : List Bytes) {t t' : Taken}, Near t t' →
    Alike Taken.Level (read called true args t) (read called true args t')
  | [], t, t', h => by
    unfold read
    exact settled_alike h fun t t' h _ => h
  | arg :: args, t, t', h => by
    unfold read
    exact (readOperand_alike arg h).bind fun t t' h => readOperands_alike args (.level h.1)

/-- **A reading with the switch for debugging** taken before goes as one without, unless the switch
is given again before the two hyphens that end the switches. -/
theorem read_alike : ∀ (args : List Bytes) {t t' : Taken}, Near t t' →
    debugArgument ∉ args.takeWhile (· != [hyphen, hyphen]) →
      Alike Taken.Level (read called false args t) (read called false args t')
  | [], t, t', h, _ => by
    unfold read
    exact settled_alike h fun t t' h _ => h
  | arg :: args, t, t', h, hargs => by
    by_cases hend : arg = [hyphen, hyphen]
    · subst hend
      exact readOperands_alike args h
    · rw [List.takeWhile_cons_of_pos (by simpa using hend), List.mem_cons, not_or] at hargs
      rw [read_cons hend, read_cons hend]
      exact (take_alike called (Ne.symm hargs.1) h).bind fun t t' h =>
        read_alike args (.level h.1) hargs.2

/-! ### What was read and cannot be taken -/

section
variable {m : Misuse} (hnone : awaitsValue t = none) (hsettle : settle t = (some m, t₁))
include hsettle

theorem readOperands_refused (called : String) (args : List Bytes) :
    ∃ text, read called true args t = .error (.misuse text) := by
  unfold read
  cases args with
  | nil => exact ⟨_, settled_refused hsettle _⟩
  | cons arg args =>
    obtain ⟨text, hrefused⟩ := readOperand_refused hsettle called arg
    simp only [hrefused]
    exact ⟨text, rfl⟩

include hnone

theorem read_refused (called : String) (args : List Bytes) :
    ∃ text, read called false args t = .error (.misuse text) := by
  cases args with
  | nil =>
    unfold read
    exact ⟨_, settled_refused hsettle _⟩
  | cons arg args =>
    by_cases hend : arg = [hyphen, hyphen]
    · subst hend
      exact readOperands_refused hsettle called args
    · obtain ⟨text, hrefused⟩ := take_refused hnone hsettle called arg
      rw [read_cons hend, hrefused]
      exact ⟨text, rfl⟩

end

/-! ### The arguments before the switch -/

theorem take_debugArgument : take called debugArgument t = readSwitch called .debug true t := rfl

/-- **The switch for debugging among other arguments** changes nothing in how they are read but that
it is taken too. The induction is on the arguments before it, which are read in the same way. -/
theorem read_inserted (called : String) {rest : List Bytes}
    (hrest : debugArgument ∉ rest.takeWhile (· != [hyphen, hyphen])) :
    ∀ (before : List Bytes) {t : Taken}, t.Sound → (before = [] → awaitsValue t = none) →
      Admits before → debugArgument ∉ before →
        Alike Taken.Level (read called false (before ++ rest) t)
          (read called false (before ++ debugArgument :: rest) t)
  | [], t, hsound, hnone, _, _ => by
    rw [List.nil_append, List.nil_append, read_cons (by decide), take_debugArgument, readSwitch,
      settled]
    cases hsettle : settle t with
    | mk m t₁ =>
      cases m with
      | some m =>
        obtain ⟨text, hrefused⟩ := read_refused (hnone rfl) hsettle called rest
        rw [hrefused]
        trivial
      | none =>
        have hstep := settle_level hsound.level
        rw [hsettle] at hstep
        have hsound₁ := hstep.2.sound
        have htake : takeSwitch .debug t₁ = (none, { t₁ with switches := .debug :: t₁.switches }) :=
          if_neg (mt List.contains_iff_mem.mp hsound₁.untaken)
        simp only [htake]
        exact read_alike rest (.ahead (hnone rfl) hsettle hsound₁.level) hrest
  | arg :: before, t, hsound, _, hadmits, hother => by
    have hend : arg ≠ [hyphen, hyphen] := fun heq => hadmits.goesOn (heq ▸ List.mem_cons_self)
    rw [List.mem_cons, not_or] at hother
    rw [List.cons_append, List.cons_append, read_cons hend, read_cons hend]
    have htook := take_alike called (Ne.symm hother.1) (.level hsound.level)
    cases htake : take called arg t with
    | error r => exact .refl r
    | ok t₁ =>
      rw [htake] at htook
      obtain ⟨t₁', -, hlevel, hnone⟩ := htook.of_ok
      refine read_inserted called hrest before hlevel.sound (fun hnil => ?_) ⟨?_, ?_⟩ hother.2
      · subst hnil
        exact hnone (hadmits.settled arg rfl)
      · exact fun hmem => hadmits.goesOn (List.mem_cons_of_mem _ hmem)
      · intro last hlast
        refine hadmits.settled last ?_
        rw [Option.mem_def] at hlast ⊢
        rw [List.getLast?_cons, hlast]
        rfl

end CommandLine

namespace Arguments

open CommandLine (debugArgument hyphen)

theorem ofTaken_level {t t' : CommandLine.Taken} (h : t.Level t') :
    ofTaken t' = (ofTaken t).map fun args => { args with debug := true } := by
  have hdebug : t'.switches.contains .debug = true := by
    obtain ⟨-, hswitches⟩ := h
    exact List.contains_iff_mem.mpr ((hswitches _).mpr (.inl rfl))
  unfold ofTaken
  rw [h.contains (by decide), h.contains (by decide), hdebug]
  cases h
  simp only
  cases t.directive with
  | none => rfl
  | some directive =>
    simp only
    split <;> rfl

/-- **The switch for debugging among other arguments**, where a switch can be given, changes nothing
in what these ask for, unless they give it again: they are refused in the same way, or read with
that switch. -/
theorem read_debug {program : Bytes} {before rest : List Bytes}
    (hadmits : CommandLine.Admits before)
    (hother : debugArgument ∉ (before ++ rest).takeWhile (· != [hyphen, hyphen])) :
    (∃ r r', read (program :: (before ++ rest)) = .error r ∧
      read (program :: (before ++ debugArgument :: rest)) = .error r' ∧ r.Alike r') ∨
    ∃ args, read (program :: (before ++ rest)) = .ok args ∧
      read (program :: (before ++ debugArgument :: rest)) = .ok { args with debug := true } := by
  have hgoesOn : ∀ arg ∈ before, (arg != [hyphen, hyphen]) = true := fun arg harg =>
    bne_iff_ne.mpr fun heq => hadmits.goesOn (heq ▸ harg)
  rw [List.takeWhile_append_of_pos hgoesOn, List.mem_append, not_or] at hother
  have halike := CommandLine.read_inserted (calledAs (some program)) hother.2 before
    (t := .none) ⟨nofun, nofun⟩ (fun _ => rfl) hadmits hother.1
  have hread : ∀ rest, read (program :: rest) =
      (CommandLine.read (calledAs (some program)) false rest .none).bind ofTaken := fun _ => rfl
  rw [hread, hread]
  cases hquiet : CommandLine.read (calledAs (some program)) false (before ++ rest) .none with
  | error r =>
    rw [hquiet] at halike
    obtain ⟨r', hloud, hr⟩ := halike.of_error
    rw [hloud]
    exact .inl ⟨r, r', rfl, rfl, hr⟩
  | ok t =>
    rw [hquiet] at halike
    obtain ⟨t', hloud, hlevel⟩ := halike.of_ok
    rw [hloud]
    change (∃ r r', ofTaken t = _ ∧ ofTaken t' = _ ∧ _) ∨
      ∃ args, ofTaken t = _ ∧ ofTaken t' = _
    rw [ofTaken_level hlevel]
    cases ofTaken t with
    | error r => exact .inl ⟨r, r, rfl, rfl, .refl r⟩
    | ok args => exact .inr ⟨args, rfl, rfl⟩

end Arguments
end StreamEditor
