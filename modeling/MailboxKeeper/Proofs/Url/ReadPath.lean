import MailboxKeeper.Proofs.Url.Segment
import MailboxKeeper.Url.Parser

/-!
# Paths that were read

The segments of a path that was read from a text have no slash in them (`isRead_of_parse_eq_ok`).
So the text of the path tells its segments (`renderSegments_inj`), and with the authority it tells
whether a dot stands before it.
-/

namespace MailboxKeeper.Url

open Text

variable {scheme : String} {names names' : List String} {cs ds segment : List Char} {c : Char}

/-- No segment has a slash in it. -/
def SlashFree (names : List String) : Prop := ∀ name ∈ names, '/' ∉ name.toList

/-- A path of segments without slashes, or a plain one. -/
def Path.IsSlashFree : Path → Prop
  | segments names => SlashFree names
  | plain _ => True

/-- What is true of every URL that was read. -/
structure IsRead (u : Url) : Prop where
  path : u.path.IsSlashFree
  isApart : u.isApart = (u.authority.isNone && u.path.opensEmpty)

/-! ## Segments and their text -/

theorem slashFree_nil : SlashFree [] := List.forall_mem_nil _

theorem slashFree_append : SlashFree (names ++ names') ↔ SlashFree names ∧ SlashFree names' :=
  List.forall_mem_append

theorem slashFree_singleton {name : String} : SlashFree [name] ↔ '/' ∉ name.toList :=
  List.forall_mem_singleton

theorem slashFree_empty : SlashFree [""] := slashFree_singleton.2 (by decide)

theorem SlashFree.sublist (free : SlashFree names) (fewer : names'.Sublist names) :
    SlashFree names' :=
  fun name member => free name (fewer.subset member)

/-- Segments without slashes are told by their text. -/
theorem renderSegments_inj (free : SlashFree names) (free' : SlashFree names')
    (same : renderSegments names = renderSegments names') : names = names' := by
  have texts := congrArg String.toList same
  rw [toList_renderSegments, toList_renderSegments] at texts
  clear same
  have next : ∀ names : List String,
      ∀ c ∈ (names.flatMap fun name => '/' :: name.toList).head?, c = '/' := by
    rintro (_ | ⟨name, names⟩) c first
    · cases first
    · cases first
      rfl
  induction names generalizing names' with
  | nil =>
    cases names' with
    | nil => rfl
    | cons name' names' => cases texts
  | cons name names ih =>
    cases names' with
    | nil => cases texts
    | cons name' names' =>
      rw [SlashFree, List.forall_mem_cons] at free free'
      simp only [List.flatMap_cons, List.cons_append, List.cons.injEq, true_and] at texts
      have first : name = name' := String.toList_inj.1
        (eq_of_append_slash free.1 free'.1 (next names) (next names') texts)
      subst first
      rw [ih free.2 free'.2 (List.append_cancel_left texts)]

/-! ## Reading segments -/

theorem slash_notMem_percentEncode {encoded : Char → Bool} (free : '/' ∉ cs) :
    '/' ∉ percentEncode encoded cs := by
  intro member
  rcases mem_percentEncode member with ⟨inside, -⟩ | mark | ⟨n, small, digit⟩
  · exact free inside
  · cases mark
  · have all : ∀ n < 16, '/' ≠ hexDigit n := by decide
    exact all n small digit

theorem slash_notMem_significant (free : '/' ∉ cs) : '/' ∉ significant cs :=
  fun member => free (List.mem_filter.1 member).1

theorem slash_notMem_driveSegment (free : '/' ∉ segment) :
    '/' ∉ (driveSegment segment).toList := by
  rw [driveSegment, String.toList_ofList, List.mem_append, not_or]
  exact ⟨fun member => free (List.mem_of_mem_take member), by decide⟩

/-- What is taken for a drive comes from the segment. -/
theorem subset_of_afterCutDrive? {letter : Char} {rest : List Char}
    (cut : afterCutDrive? segment = some (letter, rest)) : letter :: rest ⊆ segment := by
  unfold afterCutDrive? at cut
  split at cut
  · rename_i first behind front
    split at cut
    · rename_i mark tail colon
      obtain ⟨-, found⟩ := Option.ite_none_right_eq_some.1 cut
      cases found
      have whole : letter :: behind ⊆ segment := by
        rw [← front]
        exact (List.dropWhile_suffix _).subset
      have later : ':' :: tail ⊆ behind := by
        rw [← colon]
        exact (List.dropWhile_suffix _).subset
      have kept : significant tail ⊆ tail := List.filter_sublist.subset
      have rest : significant tail ⊆ behind :=
        List.Subset.trans kept (List.Subset.trans (List.subset_cons_self _ _) later)
      exact List.Subset.trans (List.cons_subset_cons _ rest) whole
    · cases cut
  · cases cut

theorem slashFree_leaveSegment (free : SlashFree names) : SlashFree (leaveSegment names) := by
  unfold leaveSegment
  split
  · exact free
  · exact free.sublist (List.dropLast_sublist _)

theorem slashFree_addSegment (free : SlashFree names) (closed : '/' ∉ segment) (last : Bool) :
    SlashFree (addSegment scheme names segment last) := by
  have ending : SlashFree (if last then [""] else []) := by
    cases last with
    | true => exact slashFree_empty
    | false => exact slashFree_nil
  unfold addSegment
  split
  · exact slashFree_append.2 ⟨slashFree_leaveSegment free, ending⟩
  · split
    · exact slashFree_append.2 ⟨free, ending⟩
    · split
      · exact slashFree_singleton.2 (slash_notMem_driveSegment closed)
      · refine slashFree_append.2 ⟨free, slashFree_singleton.2 ?_⟩
        rwa [String.toList_ofList]

theorem slashFree_add {path : ReadPath} (free : SlashFree path.names) (closed : '/' ∉ segment)
    (last : Bool) : SlashFree (path.add scheme segment last).names := by
  have text : '/' ∉ percentEncode inPath (significant segment) :=
    slash_notMem_percentEncode (slash_notMem_significant closed)
  unfold ReadPath.add
  dsimp only
  split
  · rename_i letter rest cut
    have inside : letter :: rest ⊆ segment := by
      split at cut
      · exact subset_of_afterCutDrive? cut
      · cases cut
    have apart : '/' ∉ letter :: rest := fun member => closed (inside member)
    rw [List.mem_cons, not_or] at apart
    refine List.forall_mem_cons.2 ⟨slash_notMem_driveSegment ?_, slashFree_singleton.2 ?_⟩
    · exact fun member => apart.1 (List.mem_singleton.1 member)
    · rw [String.toList_ofList]
      exact slash_notMem_percentEncode apart.2
  · exact slashFree_addSegment free text last

theorem slashFree_addAll {segments : List (List Char)} {path : ReadPath}
    (free : SlashFree path.names) (closed : ∀ segment ∈ segments, '/' ∉ segment) :
    SlashFree (path.addAll scheme segments).names := by
  induction segments generalizing path with
  | nil => exact free
  | cons segment segments ih =>
    rw [List.forall_mem_cons] at closed
    cases segments with
    | nil => exact slashFree_add free closed.1 true
    | cons next segments => exact ih (slashFree_add free closed.1 false) closed.2

/-- No piece has a separator in it. -/
theorem separator_notMem_of_mem_splitAt {isSeparator : Char → Bool} {piece : List Char}
    (member : piece ∈ splitAt isSeparator cs) : ∀ c ∈ piece, isSeparator c = false := by
  induction cs generalizing piece with
  | nil =>
    rw [splitAt, List.mem_singleton] at member
    subst member
    exact List.forall_mem_nil _
  | cons c cs ih =>
    rw [splitAt] at member
    split at member
    · rcases List.mem_cons.1 member with rfl | later
      · exact List.forall_mem_nil _
      · exact ih later
    · rename_i plain
      have first : isSeparator c = false := Bool.eq_false_iff.2 plain
      split at member
      · rw [List.mem_singleton] at member
        subst member
        exact List.forall_mem_singleton.2 first
      · rename_i front pieces split
        rcases List.mem_cons.1 member with rfl | later
        · exact List.forall_mem_cons.2 ⟨first, ih (by rw [split]; exact List.mem_cons_self)⟩
        · exact ih (by rw [split]; exact List.mem_cons_of_mem _ later)

theorem slashFree_readPath (scheme : String) (cs : List Char) :
    SlashFree (readPath scheme cs).names := by
  refine slashFree_addAll slashFree_nil ?_
  intro segment member slash
  have plain := separator_notMem_of_mem_splitAt member '/' slash
  simp [isSlash] at plain

/-! ## Reading paths -/

theorem isSlashFree_pathAfterAuthority (scheme : String) (cs : List Char) :
    (pathAfterAuthority scheme cs).IsSlashFree := by
  unfold pathAfterAuthority
  split
  · show SlashFree (if isSpecialScheme scheme then [""] else [])
    split
    · exact slashFree_empty
    · exact slashFree_nil
  · exact slashFree_readPath _ _

theorem isSlashFree_fileOn (host : Host) {path : ReadPath} (free : SlashFree path.names) :
    (fileOn host path).2.IsSlashFree := by
  show SlashFree (if (path.names.dropWhile (· == "")).isEmpty then [""]
    else path.names.dropWhile (· == ""))
  split
  · exact slashFree_empty
  · exact free.sublist (List.dropWhile_sublist _)

section Parts

variable {ends : Bool} {parts : Option Authority × Path}

theorem isSlashFree_of_specialParts (read : specialParts scheme cs = .ok parts) :
    parts.2.IsSlashFree := by
  simp only [specialParts, bind, Except.bind, pure, Except.pure] at read
  split at read
  · cases read
  · cases read
    exact isSlashFree_pathAfterAuthority _ _

theorem isSlashFree_of_fileOnServer (read : fileOnServer cs = .ok parts) :
    parts.2.IsSlashFree := by
  simp only [fileOnServer, bind, Except.bind, pure, Except.pure] at read
  split at read
  · cases read
    exact isSlashFree_fileOn _ (slashFree_readPath _ _)
  · split at read
    · cases read
    · cases read
      exact isSlashFree_fileOn _ (slashFree_readPath _ _)

theorem isSlashFree_of_fileParts (read : fileParts cs = .ok parts) : parts.2.IsSlashFree := by
  unfold fileParts at read
  split at read
  · cases read
    exact isSlashFree_fileOn _ (slashFree_readPath _ _)
  · split at read
    · cases read
      exact isSlashFree_fileOn _ (slashFree_readPath _ _)
    · exact isSlashFree_of_fileOnServer read

theorem isSlashFree_of_plainParts (read : plainParts scheme ends cs = .ok parts) :
    parts.2.IsSlashFree := by
  simp only [plainParts, bind, Except.bind, pure, Except.pure] at read
  split at read
  · split at read
    · cases read
    · cases read
      exact isSlashFree_pathAfterAuthority _ _
  · cases read
    exact slashFree_readPath _ _
  · cases read
    trivial

theorem isSlashFree_of_hierarchicalParts (read : hierarchicalParts scheme ends cs = .ok parts) :
    parts.2.IsSlashFree := by
  unfold hierarchicalParts at read
  split at read
  · exact isSlashFree_of_fileParts read
  · split at read
    · exact isSlashFree_of_specialParts read
    · exact isSlashFree_of_plainParts read

end Parts

theorem isRead_of_parse_eq_ok {text : String} {u : Url} (read : parse text = .ok u) :
    IsRead u := by
  simp only [parse, bind, Except.bind, pure, Except.pure] at read
  split at read
  · cases read
  · split at read
    · cases read
    · rename_i parts found
      cases read
      exact ⟨isSlashFree_of_hierarchicalParts found, rfl⟩

end MailboxKeeper.Url
