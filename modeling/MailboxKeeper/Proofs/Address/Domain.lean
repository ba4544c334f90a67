import MailboxKeeper.Proofs.Address.Comparison

/-!
# The domain of an address

An address is put together from a local part and a configured domain, and taken apart again in two
ways: at its first `@`, to see whether it is well-formed, and at its last, to see whether it lies in
the domain. An address made under a domain is well-formed exactly if the domain is dotted, blanks at
its end aside (`isWellFormed_ofParts`); it lies in that domain exactly if the domain is plain: it
neither begins with a blank nor has an `@` in it (`inDomain_ofParts_iff`). Both are the same for
addresses that are the same (`isWellFormed_of_same`, `inDomain_of_same`).
-/

namespace MailboxKeeper.Text

variable {cs ds : List Char}

/-- A text with a character that is not blank is trimmed at its end as it is trimmed at both, blanks
in front aside. -/
theorem rdropWhile_eq_append_trimChars (solid : ∃ c ∈ cs, isBlank c = false) :
    cs.rdropWhile isBlank = cs.takeWhile isBlank ++ trimChars cs := by
  rw [trimChars_eq_rdropWhile]
  have parts : cs.takeWhile isBlank ++ cs.dropWhile isBlank = cs := List.takeWhile_append_dropWhile
  cases rest : cs.dropWhile isBlank with
  | nil =>
    obtain ⟨c, member, solid⟩ := solid
    rw [List.dropWhile_eq_nil_iff.1 rest c member] at solid
    cases solid
  | cons c rest' =>
    have first : isBlank c = false := by
      have head := List.head?_dropWhile_not isBlank cs
      rw [rest] at head
      simpa using head
    rw [rdropWhile_cons first, ← rdropWhile_append_cons _ _ first, ← rest, parts]

/-- A character that is not blank is not trimmed. -/
theorem mem_trimChars {c : Char} (member : c ∈ cs) (solid : isBlank c = false) :
    c ∈ trimChars cs := by
  have parts := List.rdropWhile_append_rtakeWhile (p := isBlank) (l := cs)
  rw [rdropWhile_eq_append_trimChars ⟨c, member, solid⟩] at parts
  rw [← parts, List.mem_append, List.mem_append] at member
  rcases member with (front | inside) | back
  · rw [List.mem_takeWhile_imp front] at solid
    cases solid
  · exact inside
  · rw [List.mem_rtakeWhile_imp back] at solid
    cases solid

/-- A character with a lower code than the letters is not made by making letters small, nor
unmade. -/
theorem toLower_eq_iff {d : Char} (below : d.toNat < 65) (c : Char) : c.toLower = d ↔ c = d := by
  rcases toLower_cases c with same | ⟨low, high, moved⟩
  · rw [same]
  · constructor
    · intro lower
      rw [lower] at moved
      omega
    · rintro rfl
      omega

theorem toLower_eq_at_iff (c : Char) : c.toLower = '@' ↔ c = '@' := toLower_eq_iff (by decide) c

theorem toLower_eq_dot_iff (c : Char) : c.toLower = '.' ↔ c = '.' := toLower_eq_iff (by decide) c

theorem mem_fold_iff {d : Char} (below : d.toNat < 65) : d ∈ fold cs ↔ d ∈ cs := by
  simp [fold, toLower_eq_iff below]

theorem contains_fold {d : Char} (below : d.toNat < 65) (cs : List Char) :
    (fold cs).contains d = cs.contains d := by
  rw [Bool.eq_iff_iff, List.contains_iff_mem, List.contains_iff_mem, mem_fold_iff below]

theorem at_mem_fold_iff : '@' ∈ fold cs ↔ '@' ∈ cs := mem_fold_iff (by decide)

@[simp] theorem isEmpty_fold (cs : List Char) : (fold cs).isEmpty = cs.isEmpty := by
  cases cs <;> rfl

end MailboxKeeper.Text

namespace MailboxKeeper.Address

open Text AccountRequest

variable {localPart domain a b : String} {cs ds : List Char}

/-- There is no `@` in a well-formed local part. -/
theorem at_notMem_localPart (valid : localPartViolation? localPart = none) :
    '@' ∉ localPart.toList := by
  intro member
  have codes := toNat_of_isLocalPartChar ((chars_of_localPartViolation?_eq_none valid).2 _ member)
  have at_ : '@'.toNat = 64 := rfl
  omega

/-! ## The first `@` -/

theorem splitFirstAt?_append (free : '@' ∉ cs) :
    splitFirstAt? (cs ++ '@' :: ds) = some (cs, ds) := by
  induction cs with
  | nil => simp [splitFirstAt?]
  | cons c cs ih =>
    rw [List.mem_cons, not_or] at free
    rw [List.cons_append, splitFirstAt?, if_neg (Ne.symm free.1), ih free.2]
    rfl

theorem splitFirstAt?_fold (cs : List Char) :
    splitFirstAt? (fold cs) = (splitFirstAt? cs).map (Prod.map fold fold) := by
  induction cs with
  | nil => rfl
  | cons c cs ih =>
    simp only [fold_cons, splitFirstAt?, toLower_eq_at_iff, ih]
    split
    · rfl
    · cases splitFirstAt? cs <;> rfl

theorem labels_fold (cs : List Char) : labels (fold cs) = (labels cs).map fold := by
  induction cs with
  | nil => rfl
  | cons c cs ih =>
    simp only [fold_cons, labels, toLower_eq_dot_iff, ih]
    split
    · rfl
    · cases labels cs <;> rfl

theorem isDottedDomain_fold (cs : List Char) : isDottedDomain (fold cs) = isDottedDomain cs := by
  have at_ := contains_fold (show '@'.toNat < 65 by decide) cs
  have dot := contains_fold (show '.'.toNat < 65 by decide) cs
  simp only [isDottedDomain, at_, dot, isEmpty_fold, labels_fold, List.all_map, Function.comp_def]

/-- An address made under a domain is well-formed if the domain is dotted. -/
theorem isWellFormed_ofParts (valid : localPartViolation? localPart = none) :
    isWellFormed (ofParts localPart domain)
      = isDottedDomain (domain.toList.rdropWhile isBlank) := by
  obtain ⟨full, -⟩ := chars_of_localPartViolation?_eq_none valid
  rw [isWellFormed, trimChars_ofParts valid, splitFirstAt?_append (at_notMem_localPart valid)]
  simp [full]

theorem isWellFormed_of_same (same : same a b = true) : isWellFormed a = isWellFormed b := by
  have folded (c : String) : isWellFormed c = (splitFirstAt? (fold (trimChars c.toList))).any
      fun parts => !parts.1.isEmpty && isDottedDomain parts.2 := by
    rw [splitFirstAt?_fold, isWellFormed]
    cases splitFirstAt? (trimChars c.toList) with
    | none => rfl
    | some parts => simp [isDottedDomain_fold]
  rw [folded, folded, same_iff.1 same]

/-! ## The last `@` -/

theorem afterLastAt?_eq_none_iff : afterLastAt? cs = none ↔ '@' ∉ cs := by
  induction cs with
  | nil => simp [afterLastAt?]
  | cons c cs ih =>
    rw [List.mem_cons, not_or, ← ih, afterLastAt?]
    cases afterLastAt? cs with
    | some rest => simp
    | none => simp [eq_comm]

theorem at_notMem_of_afterLastAt? (after : afterLastAt? cs = some ds) : '@' ∉ ds := by
  induction cs with
  | nil => cases after
  | cons c cs ih =>
    rw [afterLastAt?] at after
    cases later : afterLastAt? cs with
    | some rest =>
      rw [later] at after
      exact ih (later.trans after)
    | none =>
      simp only [later, Option.ite_none_right_eq_some, Option.some.injEq] at after
      rw [← after.2]
      exact afterLastAt?_eq_none_iff.1 later

theorem afterLastAt?_append (cs ds : List Char) :
    afterLastAt? (cs ++ '@' :: ds) = some ((afterLastAt? ds).getD ds) := by
  induction cs with
  | nil =>
    rw [List.nil_append, afterLastAt?]
    cases afterLastAt? ds <;> rfl
  | cons c cs ih => rw [List.cons_append, afterLastAt?, ih]

theorem afterLastAt?_fold (cs : List Char) :
    afterLastAt? (fold cs) = (afterLastAt? cs).map fold := by
  induction cs with
  | nil => rfl
  | cons c cs ih =>
    simp only [fold_cons, afterLastAt?, toLower_eq_at_iff, ih]
    cases afterLastAt? cs with
    | some rest => rfl
    | none => simp only [Option.map_none]; split <;> rfl

/-- The domain of an address in small letters comes from the address in small letters. -/
theorem map_fold_domainChars? (a : String) : (domainChars? a).map fold
    = (afterLastAt? (fold (trimChars a.toList))).filter fun d => !d.isEmpty := by
  rw [afterLastAt?_fold, domainChars?]
  cases afterLastAt? (trimChars a.toList) with
  | none => rfl
  | some d =>
    simp only [Option.filter_some, Option.map_some, isEmpty_fold]
    cases d.isEmpty <;> rfl

theorem map_fold_domainChars?_of_same (same : same a b = true) :
    (domainChars? a).map fold = (domainChars? b).map fold := by
  rw [map_fold_domainChars?, map_fold_domainChars?, same_iff.1 same]

theorem inDomain_eq_any (a domain : String) : inDomain a domain
    = ((domainChars? a).map fold).any fun d => d == fold (trimChars domain.toList) := by
  unfold inDomain
  cases domainChars? a <;> rfl

theorem inDomain_of_same (same : same a b = true) : inDomain a domain = inDomain b domain := by
  rw [inDomain_eq_any, inDomain_eq_any, map_fold_domainChars?_of_same same]

/-- Addresses that are the same have both no domain, or domains that differ in the case of letters
alone. -/
theorem domain?_rel_of_same (same : same a b = true) :
    Option.Rel (fun d e => equalFold d e = true) (domain? a) (domain? b) := by
  have folded := map_fold_domainChars?_of_same same
  unfold domain?
  cases left : domainChars? a with
  | none =>
    rw [left, Option.map_none, eq_comm, Option.map_eq_none_iff] at folded
    rw [folded]
    exact .none
  | some d =>
    rw [left, Option.map_some, eq_comm] at folded
    obtain ⟨e, right, letters⟩ := Option.map_eq_some_iff.1 folded
    rw [right]
    apply Option.Rel.some
    rw [equalFold_iff, String.toList_ofList, String.toList_ofList, letters]

/-- What follows the last `@` decides. -/
theorem inDomain_iff_of_afterLastAt? (whole : trimChars domain.toList ≠ [])
    (after : afterLastAt? (trimChars a.toList) = some ds) :
    inDomain a domain = true ↔ fold ds = fold (trimChars domain.toList) := by
  have chars : domainChars? a = (some ds).filter fun d => !d.isEmpty := congrArg _ after
  cases ds with
  | nil =>
    have nothing : domainChars? a = none := chars
    simp [inDomain, nothing, fold, whole]
  | cons d ds =>
    have something : domainChars? a = some (d :: ds) := chars
    simp [inDomain, something]

/-- The domain does not begin with a blank, and there is no `@` in it. -/
def IsPlain (domain : String) : Prop :=
  domain.toList.dropWhile isBlank = domain.toList ∧ '@' ∉ domain.toList

instance (domain : String) : Decidable (IsPlain domain) := inferInstanceAs (Decidable (_ ∧ _))

/-- An address made under a domain that is not blank lies in it exactly if the domain is plain. -/
theorem inDomain_ofParts_iff (valid : localPartViolation? localPart = none)
    (solid : isAllBlank domain = false) :
    inDomain (ofParts localPart domain) domain = true ↔ IsPlain domain := by
  have somewhere : ∃ c ∈ domain.toList, isBlank c = false := by simpa [isAllBlank] using solid
  have parts := rdropWhile_eq_append_trimChars somewhere
  have front : domain.toList.dropWhile isBlank = domain.toList
      ↔ domain.toList.takeWhile isBlank = [] := by
    have split := List.takeWhile_append_dropWhile (p := isBlank) (l := domain.toList)
    constructor
    · intro whole
      rw [whole] at split
      exact List.append_left_eq_self.1 split
    · intro nothing
      rwa [nothing, List.nil_append] at split
  have kept : '@' ∈ domain.toList ↔ '@' ∈ domain.toList.rdropWhile isBlank := by
    constructor
    · intro member
      rw [parts]
      exact List.mem_append_right _ (mem_trimChars member (by decide))
    · exact fun member => (List.rdropWhile_prefix isBlank _).subset member
  obtain ⟨c, member, dark⟩ := somewhere
  have whole : trimChars domain.toList ≠ [] := List.ne_nil_of_mem (mem_trimChars member dark)
  have after : afterLastAt? (trimChars (ofParts localPart domain).toList)
      = some ((afterLastAt? (domain.toList.rdropWhile isBlank)).getD
        (domain.toList.rdropWhile isBlank)) := by
    rw [trimChars_ofParts valid, afterLastAt?_append]
  rw [inDomain_iff_of_afterLastAt? whole after, IsPlain, front, kept, parts]
  cases after : afterLastAt? (domain.toList.takeWhile isBlank ++ trimChars domain.toList) with
  | some rest =>
    -- The domain has an `@` in it, but what follows the last `@` has none.
    have inside : '@' ∈ domain.toList.takeWhile isBlank ++ trimChars domain.toList := by
      by_contra free
      rw [afterLastAt?_eq_none_iff.2 free] at after
      cases after
    refine ⟨fun same => ?_, fun plain => absurd inside plain.2⟩
    have trimmed : '@' ∈ trimChars domain.toList :=
      mem_trimChars (kept.2 (by rw [parts]; exact inside)) (by decide)
    rw [← at_mem_fold_iff, ← same, Option.getD_some, at_mem_fold_iff] at trimmed
    exact absurd trimmed (at_notMem_of_afterLastAt? after)
  | none =>
    rw [Option.getD_none, fold_append]
    constructor
    · intro same
      have nothing := List.append_left_eq_self.1 same
      exact ⟨List.map_eq_nil_iff.1 nothing, afterLastAt?_eq_none_iff.1 after⟩
    · rintro ⟨nothing, -⟩
      rw [nothing]
      rfl

end MailboxKeeper.Address
