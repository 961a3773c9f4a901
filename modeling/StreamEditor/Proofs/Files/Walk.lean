/-
# Where paths lead

Where names lead from a directory is told by a relation (`Leads`), with the number of links on the
way. Following names through at most so many links finds just what they lead to (`walkLinks_iff`).
Names lead to one spot only, and names in a row lead where the last of them lead from where the
first ones do (`Leads.append`, `Leads.split`). A tree that only has more entries leads all names
that lead anywhere to the same spot (`Leads.mono`).

Key definitions: `Tree.Leads`.
Key theorems: `Tree.walkLinks_iff`, `Tree.Leads.split`, `Tree.Leads.unique`, `Tree.Leads.mono`.
-/
import StreamEditor.Proofs.Files.Tree

namespace StreamEditor
namespace Tree

/-! ### The relation -/

/-- Names lead from a spot to another, through so many links. -/
inductive Leads (t : Tree) : Nat → Spot → List Name → Spot → Prop
  | stay {here : Spot} : Leads t 0 here [] here
  /-- Above the working directory, only the names for a directory itself and for the one above
  lead anywhere. -/
  | above {k : Nat} {n : Name} {ns : List Name} {r : Spot} : n = Path.dot ∨ n = Path.dotDot →
      Leads t k .above ns r → Leads t k .above (n :: ns) r
  | dot {k : Nat} {l : Location} {ns : List Name} {r : Spot} : t.get? l = some .directory →
      Leads t k (.below l) ns r → Leads t k (.below l) (Path.dot :: ns) r
  | dotDot {k : Nat} {l : Location} {ns : List Name} {r : Spot} : t.get? l = some .directory →
      Leads t k (parent (.below l)) ns r → Leads t k (.below l) (Path.dotDot :: ns) r
  /-- A name leads to the entry under it, -/
  | enter {k : Nat} {l : Location} {n : Name} {ns : List Name} {e : Entry} {r : Spot} :
      t.get? l = some .directory → n ≠ Path.dot → n ≠ Path.dotDot → n.length ≤ maxName →
      t.get? (l ++ [n]) = some e → (∀ target, e ≠ .link target) →
      Leads t k (.below (l ++ [n])) ns r → Leads t k (.below l) (n :: ns) r
  /-- or where the path leads that a link holds. -/
  | link {k : Nat} {l : Location} {n : Name} {ns : List Name} {target : Path} {r : Spot} :
      t.get? l = some .directory → n ≠ Path.dot → n ≠ Path.dotDot → n.length ≤ maxName →
      t.get? (l ++ [n]) = some (.link target) →
      Leads t k (base target (.below l)) (Path.names target ++ ns) r →
      Leads t (k + 1) (.below l) (n :: ns) r

variable {t : Tree}

theorem Leads.eq_of_nil {k : Nat} {here r : Spot} (h : Leads t k here [] r) : r = here := by
  cases h
  rfl

/-- How a walk through at most `n` links goes on behind a link. -/
def followed (t : Tree) : Nat → Spot → List Name → Except SystemError Spot
  | 0 => fun _ _ => .error .linkLoop
  | n + 1 => walkLinks t false n

theorem walkLinks_eq (n : Nat) : walkLinks t false n = walk t (followed t n) false := by
  cases n <;> rfl

/-- What a walk finds is where its names lead, if that holds of what lies behind links. -/
theorem leads_of_walk {n : Nat} {follow : Spot → List Name → Except SystemError Spot}
    (hfollow : ∀ {here names r}, follow here names = .ok r →
      ∃ k, k + 1 ≤ n ∧ Leads t k here names r) :
    ∀ {names : List Name} {here r : Spot}, walk t follow false here names = .ok r →
      ∃ k, k ≤ n ∧ Leads t k here names r
  | [], here, r, h => by
    rw [walk] at h
    cases h
    exact ⟨0, Nat.zero_le n, .stay⟩
  | name :: ns, .above, r, h => by
    rw [walk] at h
    by_cases hname : (name == Path.dot || name == Path.dotDot) = true
    · rw [if_pos hname] at h
      obtain ⟨k, hk, hleads⟩ := leads_of_walk hfollow h
      rw [Bool.or_eq_true, beq_iff_eq, beq_iff_eq] at hname
      exact ⟨k, hk, .above hname hleads⟩
    · rw [if_neg hname] at h
      cases h
  | name :: ns, .below l, r, h => by
    rw [walk] at h
    split at h
    case h_2 => cases h
    case h_1 hdir =>
      by_cases hdot : (name == Path.dot) = true
      · rw [if_pos hdot] at h
        obtain ⟨k, hk, hleads⟩ := leads_of_walk hfollow h
        exact ⟨k, hk, beq_iff_eq.mp hdot ▸ .dot hdir hleads⟩
      rw [if_neg hdot] at h
      by_cases hup : (name == Path.dotDot) = true
      · rw [if_pos hup] at h
        obtain ⟨k, hk, hleads⟩ := leads_of_walk hfollow h
        exact ⟨k, hk, beq_iff_eq.mp hup ▸ .dotDot hdir hleads⟩
      rw [if_neg hup] at h
      by_cases hlong : maxName < name.length
      · rw [if_pos hlong] at h
        cases h
      rw [if_neg hlong] at h
      have hdot' : name ≠ Path.dot := fun hn => hdot (beq_iff_eq.mpr hn)
      have hup' : name ≠ Path.dotDot := fun hn => hup (beq_iff_eq.mpr hn)
      have hshort : name.length ≤ maxName := Nat.not_lt.mp hlong
      cases hentry : t.get? (l ++ [name]) with
      | none =>
        rw [hentry] at h
        simp at h
      | some e =>
        rw [hentry] at h
        cases e with
        | link target =>
          obtain ⟨k, hk, hleads⟩ := hfollow h
          exact ⟨k + 1, hk, .link hdir hdot' hup' hshort hentry hleads⟩
        | file data mode =>
          obtain ⟨k, hk, hleads⟩ := leads_of_walk hfollow h
          exact ⟨k, hk, .enter hdir hdot' hup' hshort hentry (fun _ => nofun) hleads⟩
        | directory =>
          obtain ⟨k, hk, hleads⟩ := leads_of_walk hfollow h
          exact ⟨k, hk, .enter hdir hdot' hup' hshort hentry (fun _ => nofun) hleads⟩

theorem leads_of_walkLinks : ∀ {n : Nat} {here r : Spot} {names : List Name},
    walkLinks t false n here names = .ok r → ∃ k, k ≤ n ∧ Leads t k here names r
  | 0, _, _, _, h => leads_of_walk (fun hf => by cases hf) h
  | _ + 1, _, _, _, h => leads_of_walk
    (fun hf =>
      let ⟨k, hk, hleads⟩ := leads_of_walkLinks hf
      ⟨k, Nat.succ_le_succ hk, hleads⟩) h

theorem walkLinks_of_leads {k : Nat} {here r : Spot} {names : List Name}
    (h : Leads t k here names r) :
    ∀ {n : Nat}, k ≤ n → walkLinks t false n here names = .ok r := by
  induction h with
  | @stay here =>
    intro n _
    rw [walkLinks_eq, walk]
  | @above _ name _ _ hname _ ih =>
    intro n hk
    have htest : (name == Path.dot || name == Path.dotDot) = true := by
      simpa [beq_iff_eq] using hname
    rw [walkLinks_eq, walk, if_pos htest, ← walkLinks_eq]
    exact ih hk
  | dot hdir _ ih =>
    intro n hk
    rw [walkLinks_eq, walk, hdir]
    simp only [beq_self_eq_true, ↓reduceIte]
    rw [← walkLinks_eq]
    exact ih hk
  | dotDot hdir _ ih =>
    intro n hk
    have hne : (Path.dotDot == Path.dot) = false := by decide
    rw [walkLinks_eq, walk, hdir]
    simp only [hne, Bool.false_eq_true, beq_self_eq_true, ↓reduceIte]
    rw [← walkLinks_eq]
    exact ih hk
  | @enter _ l name ns e r hdir hdot hup hshort hentry hplain _ ih =>
    intro n hk
    rw [walkLinks_eq, walk, hdir]
    simp only [beq_iff_eq, hdot, hup, Nat.not_lt.mpr hshort, ↓reduceIte, hentry]
    rw [← walkLinks_eq]
    cases e with
    | link target => exact absurd rfl (hplain target)
    | file data mode => exact ih hk
    | directory => exact ih hk
  | link hdir hdot hup hshort hentry _ ih =>
    intro n hk
    obtain ⟨m, rfl⟩ : ∃ m, n = m + 1 := ⟨n - 1, by omega⟩
    rw [walkLinks_eq, walk, hdir]
    simp only [beq_iff_eq, hdot, hup, Nat.not_lt.mpr hshort, ↓reduceIte, hentry]
    exact ih (Nat.le_of_succ_le_succ hk)

/-- **A walk finds where its names lead**, if that is through few enough links. -/
theorem walkLinks_iff {n : Nat} {here r : Spot} {names : List Name} :
    walkLinks t false n here names = .ok r ↔ ∃ k, k ≤ n ∧ Leads t k here names r :=
  ⟨leads_of_walkLinks, fun ⟨_, hk, h⟩ => walkLinks_of_leads h hk⟩

/-! ### Names in a row -/

/-- **Names in a row** lead where the last of them lead from where the first ones do. -/
theorem Leads.append {k k' : Nat} {here mid r : Spot} {names names' : List Name}
    (h : Leads t k here names mid) (h' : Leads t k' mid names' r) :
    Leads t (k + k') here (names ++ names') r := by
  induction h with
  | stay => simpa using h'
  | above hname _ ih => exact .above hname (ih h')
  | dot hdir _ ih => exact .dot hdir (ih h')
  | dotDot hdir _ ih => exact .dotDot hdir (ih h')
  | enter hdir hdot hup hshort hentry hplain _ ih =>
    exact .enter hdir hdot hup hshort hentry hplain (ih h')
  | @link k l n ns target r hdir hdot hup hshort hentry _ ih =>
    have hrest := ih h'
    rw [List.append_assoc] at hrest
    rw [Nat.add_right_comm]
    exact .link hdir hdot hup hshort hentry hrest

/-- Names that lead somewhere do so by way of every spot between them. -/
def Splits (t : Tree) (k : Nat) (here : Spot) (names : List Name) (r : Spot) : Prop :=
  ∀ xs ys : List Name, names = xs ++ ys →
    ∃ k₁ k₂ mid, k = k₁ + k₂ ∧ Leads t k₁ here xs mid ∧ Leads t k₂ mid ys r

theorem Splits.cons {k : Nat} {here r : Spot} {n : Name} {ns : List Name}
    (whole : Leads t k here (n :: ns) r)
    (inner : ∀ xs ys : List Name, ns = xs ++ ys →
      ∃ k₁ k₂ mid, k = k₁ + k₂ ∧ Leads t k₁ here (n :: xs) mid ∧ Leads t k₂ mid ys r) :
    Splits t k here (n :: ns) r := by
  intro xs ys he
  rcases List.cons_eq_append_iff.mp he with ⟨rfl, rfl⟩ | ⟨xs, rfl, hns⟩
  · exact ⟨0, k, here, (Nat.zero_add k).symm, .stay, whole⟩
  · exact inner _ _ hns

theorem Leads.split {k : Nat} {here r : Spot} {names : List Name} (h : Leads t k here names r) :
    Splits t k here names r := by
  induction h with
  | stay =>
    intro xs ys he
    obtain ⟨rfl, rfl⟩ := List.append_eq_nil_iff.mp he.symm
    exact ⟨0, 0, _, rfl, .stay, .stay⟩
  | above hname hrest ih =>
    refine Splits.cons (.above hname hrest) fun xs ys he => ?_
    obtain ⟨k₁, k₂, mid, hk, h₁, h₂⟩ := ih xs ys he
    exact ⟨k₁, k₂, mid, hk, .above hname h₁, h₂⟩
  | dot hdir hrest ih =>
    refine Splits.cons (.dot hdir hrest) fun xs ys he => ?_
    obtain ⟨k₁, k₂, mid, hk, h₁, h₂⟩ := ih xs ys he
    exact ⟨k₁, k₂, mid, hk, .dot hdir h₁, h₂⟩
  | dotDot hdir hrest ih =>
    refine Splits.cons (.dotDot hdir hrest) fun xs ys he => ?_
    obtain ⟨k₁, k₂, mid, hk, h₁, h₂⟩ := ih xs ys he
    exact ⟨k₁, k₂, mid, hk, .dotDot hdir h₁, h₂⟩
  | enter hdir hdot hup hshort hentry hplain hrest ih =>
    refine Splits.cons (.enter hdir hdot hup hshort hentry hplain hrest) fun xs ys he => ?_
    obtain ⟨k₁, k₂, mid, hk, h₁, h₂⟩ := ih xs ys he
    exact ⟨k₁, k₂, mid, hk, .enter hdir hdot hup hshort hentry hplain h₁, h₂⟩
  | link hdir hdot hup hshort hentry hrest ih =>
    refine Splits.cons (.link hdir hdot hup hshort hentry hrest) fun xs ys he => ?_
    -- What the link leads to comes first, and the names behind the link are split as before.
    obtain ⟨k₁, k₂, mid, hk, h₁, h₂⟩ := ih (Path.names _ ++ xs) ys (by rw [he, List.append_assoc])
    exact ⟨k₁ + 1, k₂, mid, by omega, .link hdir hdot hup hshort hentry h₁, h₂⟩

/-- **Names lead to one spot only.** -/
theorem Leads.unique {k : Nat} {here r : Spot} {names : List Name} (h : Leads t k here names r) :
    ∀ {k' : Nat} {r' : Spot}, Leads t k' here names r' → r' = r := by
  intro k' r' h'
  have hfound := walkLinks_of_leads h (Nat.le_max_left k k')
  have hfound' := walkLinks_of_leads h' (Nat.le_max_right k k')
  rw [hfound] at hfound'
  cases hfound'
  rfl

/-- What is no directory leads nowhere but to itself, so names that lead to a directory lead there
from one. -/
theorem Leads.from_directory {k : Nat} {here r : Spot} {names : List Name}
    (h : Leads t k here names r) (hr : t.at? r = some .directory) :
    t.at? here = some .directory := by
  have hat : ∀ {l : Location}, t.get? l = some .directory →
      t.at? (.below l) = some .directory := fun hdir => by rw [at?, hdir]
  cases h with
  | stay => exact hr
  | above _ _ => rfl
  | dot hdir _ => exact hat hdir
  | dotDot hdir _ => exact hat hdir
  | enter hdir _ _ _ _ _ _ => exact hat hdir
  | link hdir _ _ _ _ _ => exact hat hdir

/-! ### Trees that change -/

/-- **More entries** lead all names that lead anywhere to the same spot. -/
theorem Leads.mono {t' : Tree} (hmore : ∀ {l e}, t.get? l = some e → t'.get? l = some e)
    {k : Nat} {here r : Spot} {names : List Name} (h : Leads t k here names r) :
    Leads t' k here names r := by
  induction h with
  | stay => exact .stay
  | above hname _ ih => exact .above hname ih
  | dot hdir _ ih => exact .dot (hmore hdir) ih
  | dotDot hdir _ ih => exact .dotDot (hmore hdir) ih
  | enter hdir hdot hup hshort hentry hplain _ ih =>
    exact .enter (hmore hdir) hdot hup hshort (hmore hentry) hplain ih
  | link hdir hdot hup hshort hentry _ ih =>
    exact .link (hmore hdir) hdot hup hshort (hmore hentry) ih

end Tree
end StreamEditor
