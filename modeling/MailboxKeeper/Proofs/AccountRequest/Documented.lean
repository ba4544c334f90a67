import MailboxKeeper.Fault
import MailboxKeeper.Proofs.AccountRequest.LocalPart

/-!
# Rules as they are written down

Each rule says in its own words what breaks it, with lengths in characters (`Violation.IsBroken`),
and of the rules about one part of a request the first that is broken is to be told (`documented`).
The length of a local part is measured in bytes. So `violations` are the documented ones unless the
local part has at most 64 characters but more bytes; then they tell of a length where a character is
at fault. Whether a request breaks any rule is told rightly always.
-/

namespace MailboxKeeper.AccountRequest

open Text

variable {userId localPart displayName : String} {v : Violation} {cs : List Char}

/-- What it means for a request to break the rule. -/
def Violation.IsBroken (userId localPart displayName : String) : Violation → Prop
  | emptyUserId => trim userId = ""
  | emptyLocalPart => localPart = ""
  | localPartTooLong => 64 < localPart.length
  | invalidLocalPartCharacter =>
    ∃ c ∈ localPart.toList, ¬(c.isAlphanum = true ∨ c = '.' ∨ c = '_' ∨ c = '-')
  | misplacedDot =>
    ['.'] <+: localPart.toList ∨ ['.'] <:+ localPart.toList ∨ ['.', '.'] <:+: localPart.toList
  | emptyDisplayName => trim displayName = ""
  | displayNameTooLong => 255 < (trim displayName).length

instance : Decidable (v.IsBroken userId localPart displayName) :=
  match v with
  | .emptyUserId => inferInstanceAs (Decidable (trim userId = ""))
  | .emptyLocalPart => inferInstanceAs (Decidable (localPart = ""))
  | .localPartTooLong => inferInstanceAs (Decidable (64 < localPart.length))
  | .invalidLocalPartCharacter => List.decidableBEx _ _
  | .misplacedDot => inferInstanceAs (Decidable (_ ∨ _ ∨ _))
  | .emptyDisplayName => inferInstanceAs (Decidable (trim displayName = ""))
  | .displayNameTooLong => inferInstanceAs (Decidable (255 < (trim displayName).length))

/-- The rules about the local part, of which `misplacedDot` is for those of allowed characters. -/
def localPartRules : List Violation :=
  [.emptyLocalPart, .localPartTooLong, .invalidLocalPartCharacter, .misplacedDot]

/-- The rules about each part of a request. -/
def rules : List (List Violation) :=
  [[.emptyUserId], localPartRules, [.emptyDisplayName, .displayNameTooLong]]

/-- The first of the rules that the request breaks. -/
def firstBroken? (userId localPart displayName : String) (rules : List Violation) :
    Option Violation :=
  rules.find? fun v => decide (v.IsBroken userId localPart displayName)

/-- Of the rules about each part the first that the request breaks. -/
def documented (userId localPart displayName : String) : List Violation :=
  rules.flatMap fun part => (firstBroken? userId localPart displayName part).toList

/-! ## Rule by rule -/

theorem firstBroken?_nil : firstBroken? userId localPart displayName [] = none := rfl

theorem firstBroken?_cons (v : Violation) (vs : List Violation) :
    firstBroken? userId localPart displayName (v :: vs)
      = if v.IsBroken userId localPart displayName then some v
        else firstBroken? userId localPart displayName vs := by
  by_cases broken : v.IsBroken userId localPart displayName
  · rw [if_pos broken]
    exact List.find?_cons_of_pos (decide_eq_true broken)
  · rw [if_neg broken]
    exact List.find?_cons_of_neg (by simpa using broken)

theorem trim_eq_empty_iff {s : String} : trim s = "" ↔ trimChars s.toList = [] := by
  rw [← String.toList_inj, toList_trim, String.toList_empty]

theorem trimChars_eq_nil_iff : trimChars cs = [] ↔ cs.all isBlank = true := by
  constructor
  · intro nothing
    rw [List.all_eq_true]
    intro c member
    by_contra solid
    have kept := mem_trimChars member (Bool.eq_false_iff.2 solid)
    rw [nothing] at kept
    cases kept
  · intro blank
    rw [trimChars, List.dropWhile_eq_nil_iff.2 (List.all_eq_true.1 blank)]
    rfl

theorem userViolation?_eq (userId localPart displayName : String) :
    userViolation? userId = firstBroken? userId localPart displayName [.emptyUserId] := by
  have rule : isAllBlank userId = true ↔ trim userId = "" := by
    rw [trim_eq_empty_iff, trimChars_eq_nil_iff, isAllBlank]
  rw [firstBroken?_cons, firstBroken?_nil]
  exact if_congr rule rfl rfl

theorem displayNameViolation?_eq (userId localPart displayName : String) :
    displayNameViolation? displayName
      = firstBroken? userId localPart displayName [.emptyDisplayName, .displayNameTooLong] := by
  have empty : (trimChars displayName.toList).isEmpty = true ↔ trim displayName = "" := by
    rw [trim_eq_empty_iff, List.isEmpty_iff]
  have long : maxDisplayName < (trimChars displayName.toList).length
      ↔ 255 < (trim displayName).length := by
    rw [← String.length_toList, toList_trim, maxDisplayName]
  rw [firstBroken?_cons, firstBroken?_cons, firstBroken?_nil]
  exact if_congr empty rfl (if_congr long rfl rfl)

/-! ## The local part -/

theorem head?_eq_some_iff_prefix {c : Char} : cs.head? = some c ↔ [c] <+: cs := by
  cases cs with
  | nil => simp
  | cons d cs =>
    rw [List.head?_cons, Option.some.injEq, List.cons_prefix_cons, eq_comm]
    exact ⟨fun same => ⟨same, List.nil_prefix⟩, And.left⟩

theorem hasDoubleDot_iff : hasDoubleDot cs = true ↔ ['.', '.'] <:+: cs := by
  induction cs with
  | nil => simp [hasDoubleDot]
  | cons c cs ih =>
    rw [Address.hasDoubleDot_cons, List.infix_cons_iff, List.cons_prefix_cons, ih,
      head?_eq_some_iff_prefix, eq_comm]

theorem hasMisplacedDot_iff :
    hasMisplacedDot cs = true ↔ ['.'] <+: cs ∨ ['.'] <:+ cs ∨ ['.', '.'] <:+: cs := by
  have last : cs.getLast? = some '.' ↔ ['.'] <:+ cs := by
    rw [List.getLast?_eq_some_iff]
    exact exists_congr fun _ => eq_comm
  simp only [hasMisplacedDot, Bool.or_eq_true, beq_iff_eq, head?_eq_some_iff_prefix, last,
    hasDoubleDot_iff, or_assoc]

theorem not_all_isLocalPartChar_iff : (!cs.all isLocalPartChar) = true
    ↔ ∃ c ∈ cs, ¬(c.isAlphanum = true ∨ c = '.' ∨ c = '_' ∨ c = '-') := by
  simp [isLocalPartChar, and_assoc]

/-- The rules about the local part, with the length in bytes. -/
theorem localPartViolation?_eq (userId localPart displayName : String) :
    localPartViolation? localPart
      = if localPart = "" then some .emptyLocalPart
        else if 64 < localPart.utf8ByteSize then some .localPartTooLong
        else firstBroken? userId localPart displayName
          [.invalidLocalPartCharacter, .misplacedDot] := by
  rw [firstBroken?_cons, firstBroken?_cons, firstBroken?_nil]
  exact if_congr String.isEmpty_iff rfl (if_congr Iff.rfl rfl
    (if_congr not_all_isLocalPartChar_iff rfl (if_congr hasMisplacedDot_iff rfl rfl)))

/-- A local part with more bytes than characters has a character that is not allowed. -/
theorem isBroken_invalidLocalPartCharacter (userId displayName : String)
    (wide : localPart.length < localPart.utf8ByteSize) :
    Violation.invalidLocalPartCharacter.IsBroken userId localPart displayName := by
  refine not_all_isLocalPartChar_iff.1 ?_
  by_contra allowed
  have each : ∀ c ∈ localPart.toList, isLocalPartChar c = true := by simpa using allowed
  exact Nat.ne_of_gt wide (utf8ByteSize_of_localPartChars each)

/-- Told by bytes: a length that is none in characters. -/
theorem localPartViolation?_of_wide (userId displayName : String) (short : localPart.length ≤ 64)
    (wide : 64 < localPart.utf8ByteSize) :
    localPartViolation? localPart = some .localPartTooLong ∧
      firstBroken? userId localPart displayName localPartRules
        = some .invalidLocalPartCharacter := by
  have full : localPart ≠ "" := by
    rintro rfl
    exact absurd wide (by decide)
  have invalid := isBroken_invalidLocalPartCharacter userId displayName
    (Nat.lt_of_le_of_lt short wide)
  constructor
  · rw [localPartViolation?_eq userId _ displayName, if_neg full, if_pos wide]
  · have named : ¬Violation.emptyLocalPart.IsBroken userId localPart displayName := full
    have fits : ¬Violation.localPartTooLong.IsBroken userId localPart displayName :=
      Nat.not_lt.2 short
    rw [localPartRules, firstBroken?_cons, if_neg named, firstBroken?_cons, if_neg fits,
      firstBroken?_cons, if_pos invalid]

theorem localPartViolation?_of_agree
    (agree : 64 < localPart.utf8ByteSize ↔ 64 < localPart.length) : localPartViolation? localPart
      = firstBroken? userId localPart displayName localPartRules := by
  have empty : localPart = "" ↔ Violation.emptyLocalPart.IsBroken userId localPart displayName :=
    Iff.rfl
  have long : 64 < localPart.utf8ByteSize
      ↔ Violation.localPartTooLong.IsBroken userId localPart displayName := agree
  rw [localPartViolation?_eq userId _ displayName, localPartRules,
    firstBroken?_cons .emptyLocalPart, firstBroken?_cons .localPartTooLong]
  exact if_congr empty rfl (if_congr long rfl rfl)

/-! ## The whole request -/

/-- A length in the place of a character. -/
def inBytes : Violation → Violation
  | .invalidLocalPartCharacter => .localPartTooLong
  | v => v

theorem documented_eq : documented userId localPart displayName
    = (userViolation? userId).toList
      ++ (firstBroken? userId localPart displayName localPartRules).toList
      ++ (displayNameViolation? displayName).toList := by
  rw [userViolation?_eq userId localPart displayName,
    displayNameViolation?_eq userId localPart displayName]
  simp [documented, rules]

theorem documented_eq_nil_iff : documented userId localPart displayName = []
    ↔ ∀ v : Violation, ¬v.IsBroken userId localPart displayName := by
  have complete : ∀ v : Violation, ∃ part ∈ rules, v ∈ part := by
    intro v
    cases v <;> decide
  simp only [documented, List.flatMap_eq_nil_iff, Option.toList_eq_nil_iff, firstBroken?,
    List.find?_eq_none, decide_eq_true_eq]
  constructor
  · intro each v
    obtain ⟨part, listed, member⟩ := complete v
    exact each part listed v member
  · intro kept part _ v _
    exact kept v

/-- Where bytes and characters tell lengths alike, the rules are told as they are written down. -/
theorem violations_of_agree (agree : 64 < localPart.utf8ByteSize ↔ 64 < localPart.length) :
    violations userId localPart displayName = documented userId localPart displayName := by
  rw [documented_eq, ← localPartViolation?_of_agree agree]
  rfl

/-- Elsewhere a length is told in the place of a character, and nothing else is changed. -/
theorem violations_of_wide (userId displayName : String) (short : localPart.length ≤ 64)
    (wide : 64 < localPart.utf8ByteSize) :
    violations userId localPart displayName
        = (documented userId localPart displayName).map inBytes ∧
      .invalidLocalPartCharacter ∈ documented userId localPart displayName := by
  obtain ⟨told, broken⟩ := localPartViolation?_of_wide userId displayName short wide
  have user : (userViolation? userId).toList.map inBytes = (userViolation? userId).toList := by
    unfold userViolation?
    split <;> rfl
  have name : (displayNameViolation? displayName).toList.map inBytes
      = (displayNameViolation? displayName).toList := by
    simp only [displayNameViolation?]
    split
    · rfl
    · split <;> rfl
  rw [documented_eq, broken, violations, identityViolations, told]
  constructor
  · rw [List.map_append, List.map_append, user, name]
    rfl
  · simp

theorem violations_eq_documented_iff (userId localPart displayName : String) :
    violations userId localPart displayName = documented userId localPart displayName
      ↔ ¬(localPart.length ≤ 64 ∧ 64 < localPart.utf8ByteSize) := by
  have less := length_le_utf8ByteSize localPart
  constructor
  · rintro same ⟨short, wide⟩
    obtain ⟨moved, member⟩ := violations_of_wide userId displayName short wide
    -- Nothing is told as an invalid character any more.
    rw [← same, moved] at member
    obtain ⟨v, -, never⟩ := List.mem_map.1 member
    cases v <;> cases never
  · intro agree
    exact violations_of_agree (by omega)

theorem violations_eq_nil_iff : violations userId localPart displayName = []
    ↔ ∀ v : Violation, ¬v.IsBroken userId localPart displayName := by
  rw [← documented_eq_nil_iff]
  by_cases apart : localPart.length ≤ 64 ∧ 64 < localPart.utf8ByteSize
  · rw [(violations_of_wide userId displayName apart.1 apart.2).1, List.map_eq_nil_iff]
  · rw [(violations_eq_documented_iff userId localPart displayName).2 apart]

/-- A rule in the details of a fault. -/
def Violation.entry (v : Violation) : Json :=
  .object [("field", .string v.field), ("message", .string v.message)]

theorem Violation.entry_injective : Function.Injective Violation.entry := by
  intro v w same
  have messages : v.message = w.message := by
    simp only [entry, Json.object.injEq, List.cons.injEq, Prod.mk.injEq, Json.string.injEq] at same
    exact same.2.1.2
  revert messages
  cases v <;> cases w <;>
    first | exact fun _ => rfl | exact fun messages => absurd messages (by decide)

/-- A request is accepted exactly if it breaks no rule as it is written down. What is told is what
is written down, in the answer and in the details of the fault, exactly if the length of the local
part is not misjudged by its bytes; where it is, a character that is not allowed is told as a
length, and everything else as it should be. -/
theorem violations_as_documented (userId localPart displayName : String) :
    (violations userId localPart displayName = []
        ↔ ∀ v : Violation, ¬v.IsBroken userId localPart displayName) ∧
      (violations userId localPart displayName = documented userId localPart displayName
        ↔ ¬(localPart.length ≤ 64 ∧ 64 < localPart.utf8ByteSize)) ∧
      ((Fault.ofViolations (violations userId localPart displayName)).data
          = some (.object [("errors", .array
            ((documented userId localPart displayName).map Violation.entry))])
        ↔ ¬(localPart.length ≤ 64 ∧ 64 < localPart.utf8ByteSize)) ∧
      (localPart.length ≤ 64 → 64 < localPart.utf8ByteSize →
        violations userId localPart displayName
            = (documented userId localPart displayName).map inBytes ∧
          .invalidLocalPartCharacter ∈ documented userId localPart displayName) := by
  refine ⟨violations_eq_nil_iff, violations_eq_documented_iff _ _ _, ?_,
    violations_of_wide userId displayName⟩
  have data : (Fault.ofViolations (violations userId localPart displayName)).data
      = some (.object [("errors", .array
        ((violations userId localPart displayName).map Violation.entry))]) := rfl
  rw [data, ← violations_eq_documented_iff userId localPart displayName]
  simp [List.map_inj_right Violation.entry_injective]

/-- Thirty-three letters with accents, of two bytes each. -/
theorem violations_accents :
    violations "u1" (String.ofList (List.replicate 33 'é')) "Jane" = [.localPartTooLong] ∧
      documented "u1" (String.ofList (List.replicate 33 'é')) "Jane"
        = [.invalidLocalPartCharacter] := by
  decide +kernel

end MailboxKeeper.AccountRequest
