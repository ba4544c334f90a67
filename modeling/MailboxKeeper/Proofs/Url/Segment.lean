import MailboxKeeper.Proofs.Text.Run
import MailboxKeeper.Proofs.Url.Percent
import MailboxKeeper.Url.Path

/-!
# Names as segments of paths

A name that is appended to a path becomes one segment, from which it can be read back, unless it is
`.` or `..` or holds a character that is dropped from URLs (`IsWhole`).
-/

namespace MailboxKeeper.Url

open Text

variable {scheme name other : String} {path : List String} {special : Bool} {cs : List Char}

/-- A name that can be read back from a path that it was appended to. -/
def IsWhole (name : String) : Prop :=
  name ≠ "." ∧ name ≠ ".." ∧ ∀ c ∈ name.toList, isDropped c = false

instance (name : String) : Decidable (IsWhole name) :=
  -- The search for an instance may find the one that tries every character there is.
  have : Decidable (∀ c ∈ name.toList, isDropped c = false) := List.decidableBAll _ _
  inferInstanceAs (Decidable (_ ∧ _ ∧ _))

/-- The segment that a name becomes. -/
def segmentOf (scheme name : String) : String :=
  String.ofList (percentEncode (inSegment (isSpecialScheme scheme)) name.toList)

/-- The path to which a segment is appended: a lone empty segment gives way. -/
def opened (path : List String) : List String := if path = [""] then [] else path

/-! ## Characters -/

theorem inSegment_percent (special : Bool) : inSegment special '%' = true := by
  cases special <;> decide

theorem inSegment_slash (special : Bool) : inSegment special '/' = true := by
  cases special <;> decide

theorem slash_notMem_segmentOf (scheme name : String) : '/' ∉ (segmentOf scheme name).toList := by
  rw [segmentOf, String.toList_ofList]
  exact notMem_percentEncode (inSegment_slash _) (by decide) (by decide) _

theorem percentDecode?_segmentOf (scheme name : String) :
    percentDecode? (segmentOf scheme name).toList = some name.toList := by
  rw [segmentOf, String.toList_ofList]
  exact percentDecode?_percentEncode (inSegment_percent _) _

theorem segmentOf_inj (same : segmentOf scheme name = segmentOf scheme other) : name = other := by
  have read := percentDecode?_segmentOf scheme name
  rw [same, percentDecode?_segmentOf] at read
  exact String.toList_inj.1 (Option.some.inj read).symm

theorem toList_renderSegments (names : List String) :
    (renderSegments names).toList = names.flatMap fun name => '/' :: name.toList := by
  simp [renderSegments, String.toList_join, List.flatMap_map]

/-- A segment ends with the text or with the slash of the next one, and so is told by the text. -/
theorem eq_of_append_slash {front front' back back' : List Char} (free : '/' ∉ front)
    (free' : '/' ∉ front') (next : ∀ c ∈ back.head?, c = '/') (next' : ∀ c ∈ back'.head?, c = '/')
    (same : front ++ back = front' ++ back') : front = front' := by
  have cut : ∀ front back : List Char, '/' ∉ front → (∀ c ∈ back.head?, c = '/') →
      (front ++ back).takeWhile (· != '/') = front := by
    intro front back free next
    refine takeWhile_append_of_stop ?_ ?_
    · intro c member
      rw [bne_iff_ne]
      rintro rfl
      exact free member
    · intro c first
      rw [next c first]
      rfl
  rw [← cut front back free next, same, cut front' back' free' next']

/-! ## Dots -/

theorem hexDigit_two {n : Nat} (small : n < 16) (same : hexDigit n = '2') : n = 2 := by
  have all : ∀ n < 16, hexDigit n = '2' → n = 2 := by decide
  exact all n small same

theorem hexDigit_fourteen {n : Nat} (small : n < 16)
    (same : hexDigit n = 'e' ∨ hexDigit n = 'E') : n = 14 := by
  have all : ∀ n < 16, hexDigit n = 'e' ∨ hexDigit n = 'E' → n = 14 := by decide
  exact all n small same

/-- The byte of the dot starts no other character. -/
theorem eq_dot_of_utf8EncodeChar {c : Char} {bs : List UInt8}
    (bytes : String.utf8EncodeChar c = 0x2E :: bs) : c = '.' := by
  obtain ⟨b, rest, same, first⟩ := lead_utf8EncodeChar c []
  rw [bytes] at same
  obtain ⟨rfl, rfl⟩ := List.cons.inj same
  have ascii : lead 0x2E (bs ++ []) = .char '.' (bs ++ []) := lead_one (a := 0x2E) (by decide)
  rw [ascii] at first
  exact (Lead.char.inj first).1.symm

/-- A dot is taken for a dot and nothing else is, for an encoded character is no dot. -/
theorem afterDot?_percentEncode (c : Char) (cs : List Char) :
    afterDot? (percentEncode (inSegment special) (c :: cs))
      = if c = '.' then some (percentEncode (inSegment special) cs) else none := by
  rw [percentEncode, List.flatMap_cons, ← percentEncode]
  by_cases dot : c = '.'
  · subst dot
    have plain : inSegment special '.' = false := by cases special <;> decide
    rw [if_pos rfl, encodeChar, plain]
    rfl
  · rw [if_neg dot, encodeChar]
    split
    · obtain ⟨b, bs, bytes, -⟩ := lead_utf8EncodeChar c []
      have small := b.toNat_lt
      rw [bytes, List.flatMap_cons, encodeByte, List.append_assoc]
      simp only [List.cons_append, List.nil_append]
      unfold afterDot?
      split
      · rename_i same
        cases same
      · rename_i e rest same
        rw [if_neg]
        intro letter
        simp only [List.cons.injEq, true_and] at same
        obtain ⟨high, low, -⟩ := same
        rw [← low] at letter
        have value : b = 0x2E := by
          rw [← UInt8.toNat_inj]
          have first := hexDigit_two (by omega) high
          have second := hexDigit_fourteen (by omega) letter
          show b.toNat = 46
          omega
        exact dot (eq_dot_of_utf8EncodeChar (value ▸ bytes))
      · rfl
    · rename_i plain
      have other : c ≠ '%' := by
        rintro rfl
        exact plain (inSegment_percent special)
      simp [afterDot?, dot, other]

theorem percentEncode_eq_nil_iff : percentEncode (inSegment special) cs = [] ↔ cs = [] :=
  ⟨fun nothing => percentEncode_inj (inSegment_percent special)
      (show _ = percentEncode (inSegment special) [] from nothing),
    fun nothing => by rw [nothing]; rfl⟩

theorem isSingleDot_percentEncode :
    isSingleDot (percentEncode (inSegment special) cs) = true ↔ cs = ['.'] := by
  unfold isSingleDot
  rw [beq_iff_eq]
  cases cs with
  | nil => simp [percentEncode, afterDot?]
  | cons c cs =>
    rw [afterDot?_percentEncode]
    split
    · rename_i dot
      rw [Option.some.injEq, percentEncode_eq_nil_iff, dot, List.cons.injEq]
      exact ⟨fun rest => ⟨rfl, rest⟩, And.right⟩
    · rename_i other
      simp [other]

theorem isDoubleDot_percentEncode :
    isDoubleDot (percentEncode (inSegment special) cs) = true ↔ cs = ['.', '.'] := by
  unfold isDoubleDot
  cases cs with
  | nil => simp [percentEncode, afterDot?]
  | cons c cs =>
    rw [afterDot?_percentEncode]
    split
    · rename_i dot
      rw [Option.map_some, Option.getD_some, isSingleDot_percentEncode, dot, List.cons.injEq]
      exact ⟨fun rest => ⟨rfl, rest⟩, And.right⟩
    · rename_i other
      simp [other]

/-! ## Appending -/

theorem toList_eq_iff (text : String) : name.toList = text.toList ↔ name = text := String.toList_inj

theorem significant_eq_iff : significant cs = cs ↔ ∀ c ∈ cs, isDropped c = false := by
  simp [significant, List.filter_eq_self]

theorem percentDecode?_nil : percentDecode? [] = some [] :=
  percentDecode?_percentEncode (inSegment_percent false) []

theorem opened_of_ne (solid : path ≠ [""]) : opened path = path := if_neg solid

/-- A whole name becomes a segment behind the others, unless it would name a drive in front. -/
theorem appendSegment_of_isWhole (whole : IsWhole name)
    (noDrive : opened path ≠ [] ∨ isDrive (segmentOf scheme name).toList = false) :
    appendSegment scheme path name.toList = opened path ++ [segmentOf scheme name] := by
  obtain ⟨noDot, noDots, kept⟩ := whole
  have one : name.toList ≠ ['.'] := mt (toList_eq_iff ".").1 noDot
  have two : name.toList ≠ ['.', '.'] := mt (toList_eq_iff "..").1 noDots
  rw [appendSegment, if_neg (not_or.2 ⟨one, two⟩), significant_eq_iff.2 kept, addSegment,
    if_neg (mt isDoubleDot_percentEncode.1 two), if_neg (mt isSingleDot_percentEncode.1 one),
    if_neg]
  · rfl
  · rintro ⟨-, front, drive⟩
    rcases noDrive with behind | noDrive
    · exact behind (List.isEmpty_iff.1 front)
    · rw [segmentOf, String.toList_ofList, drive] at noDrive
      cases noDrive

/-- What becomes of any name behind a segment that is no drive: it is left out, it takes that
segment away, or it adds one, which is empty or spells what counts of the name. -/
theorem appendSegment_behind (scheme : String) {last : String}
    (noDrive : isDrive last.toList = false) (solid : path ++ [last] ≠ [""]) (name : List Char) :
    (appendSegment scheme (path ++ [last]) name = path ++ [last] ∧
        (name = ['.'] ∨ name = ['.', '.'])) ∨
      appendSegment scheme (path ++ [last]) name = path ++ [""] ∨
      ∃ segment, appendSegment scheme (path ++ [last]) name = path ++ [last, segment] ∧
        (segment = "" ∧ significant name = ['.'] ∨
          segment = String.ofList
              (percentEncode (inSegment (isSpecialScheme scheme)) (significant name)) ∧
            significant name ≠ ['.'] ∧ significant name ≠ ['.', '.']) := by
  by_cases dots : name = ['.'] ∨ name = ['.', '.']
  · exact .inl ⟨if_pos dots, dots⟩
  · have behind : ¬(scheme = "file" ∧ (path ++ [last]).isEmpty ∧
          isDrive (percentEncode (inSegment (isSpecialScheme scheme)) (significant name))) := by
      simp
    rw [appendSegment, if_neg dots, if_neg solid, addSegment, if_neg behind]
    simp only [isDoubleDot_percentEncode, isSingleDot_percentEncode, if_true]
    split
    · refine .inr (.inl ?_)
      simp [leaveSegment, noDrive]
    · rename_i two
      split
      · rename_i one
        exact .inr (.inr ⟨"", by simp, .inl ⟨rfl, one⟩⟩)
      · rename_i one
        exact .inr (.inr ⟨_, by rw [List.append_assoc]; rfl, .inr ⟨rfl, one, two⟩⟩)

/-- A name that is not whole is left out, takes a segment away, or becomes one that is not read
back. -/
theorem appendSegment_of_not_isWhole (scheme : String) (broken : ¬IsWhole name) {last : String}
    (noDrive : isDrive last.toList = false) (solid : path ++ [last] ≠ [""]) :
    appendSegment scheme (path ++ [last]) name.toList = path ++ [last] ∨
      appendSegment scheme (path ++ [last]) name.toList = path ++ [""] ∨
      ∃ segment, appendSegment scheme (path ++ [last]) name.toList = path ++ [last, segment] ∧
        percentDecode? segment.toList ≠ some name.toList := by
  rcases appendSegment_behind scheme noDrive solid name.toList with
    ⟨skipped, -⟩ | left | ⟨segment, appended, ⟨rfl, single⟩ | ⟨rfl, one, two⟩⟩
  · exact .inl skipped
  · exact .inr (.inl left)
  · refine .inr (.inr ⟨"", appended, ?_⟩)
    rw [String.toList_empty, percentDecode?_nil]
    intro same
    rw [← Option.some.inj same] at single
    cases single
  · refine .inr (.inr ⟨_, appended, ?_⟩)
    rw [String.toList_ofList, percentDecode?_percentEncode (inSegment_percent _)]
    intro same
    have kept : significant name.toList = name.toList := Option.some.inj same
    rw [kept] at one two
    exact broken ⟨mt (toList_eq_iff ".").2 one, mt (toList_eq_iff "..").2 two,
      significant_eq_iff.1 kept⟩

end MailboxKeeper.Url
