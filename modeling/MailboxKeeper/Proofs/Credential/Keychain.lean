import MailboxKeeper.Proofs.Credential.Keyring

/-!
# Two maps in a keyring

The operations on master keys and on passwords work on one keyring as if each kind of secrets had a
map of its own (`Settles`). Each of them writes at most once and as its last access, so when any
access fails there is nothing to take back.
-/

namespace MailboxKeeper.Credential.Keychain

/-! ## Operations -/

/-- An operation with its arguments. -/
inductive Request where
  | masterKey (profile : String)
  | storeMasterKey (profile key : String)
  | loadOrCreateMasterKey (profile : String)
  | apiPassword (provider : String)
  | storeApiPassword (provider password : String)
  | deleteApiPassword (provider : String)
  deriving DecidableEq

namespace Request

/-- What an operation yields when it succeeds. -/
def Result : Request → Type
  | masterKey _ | apiPassword _ => Option String
  | loadOrCreateMasterKey _ => String
  | storeMasterKey .. | storeApiPassword .. | deleteApiPassword _ => Unit

def operation : (q : Request) → Operation q.Result
  | masterKey profile => Keychain.masterKey profile
  | storeMasterKey profile key => Keychain.storeMasterKey profile key
  | loadOrCreateMasterKey profile => Keychain.loadOrCreateMasterKey profile
  | apiPassword provider => Keychain.apiPassword provider
  | storeApiPassword provider password => Keychain.storeApiPassword provider password
  | deleteApiPassword provider => Keychain.deleteApiPassword provider

/-- The kind of the secret that an operation is about. -/
def kind : Request → Kind
  | masterKey _ | storeMasterKey .. | loadOrCreateMasterKey _ => .masterKey
  | apiPassword _ | storeApiPassword .. | deleteApiPassword _ => .apiPassword

/-- The scope of the secret that an operation is about. -/
def scope : Request → String
  | masterKey profile | storeMasterKey profile _ | loadOrCreateMasterKey profile => profile
  | apiPassword provider | storeApiPassword provider _ | deleteApiPassword provider => provider

/-- Does an operation refuse the empty scope? -/
def needsScope : Request → Bool
  | apiPassword _ | storeApiPassword .. => true
  | masterKey _ | storeMasterKey .. | loadOrCreateMasterKey _ | deleteApiPassword _ => false

/-- The secret that is there after an operation that has yielded a value, by the one before. -/
def leaves (before : Option String) : (q : Request) → q.Result → Option String
  | masterKey _, _ | apiPassword _, _ => before
  | storeMasterKey _ key, _ => some key
  | loadOrCreateMasterKey _, key => some (before.getD key)
  | storeApiPassword _ password, _ => some password
  | deleteApiPassword _, _ => none

/-- The value that an operation yields shows the secret that is there after it. -/
def Shows (after : Option String) : (q : Request) → q.Result → Prop
  | masterKey _, found | apiPassword _, found => found = after
  | loadOrCreateMasterKey _, key => some key = after
  | storeMasterKey .., _ | storeApiPassword .., _ | deleteApiPassword _, _ => True

end Request

variable {σ : Type} {host : Host σ} {s s' : Scene σ} {ring ring' : Keyring} {secrets : Secrets}
  {q : Request} {kind : Kind} {scope : String}

/-- The maps after an operation. One that fails leaves them as they were. -/
def Secrets.after (secrets : Secrets) (q : Request) : Except Error q.Result → Secrets
  | .ok value => secrets.set q.kind q.scope (q.leaves (secrets q.kind q.scope) value)
  | .error _ => secrets

/-- Why an operation may fail: an access has failed, or the scope is missing that it needs. -/
inductive Host.Excuses (host : Host σ) (q : Request) : Error → Prop where
  | failed {e : Error} (blames : host.Blames e) : host.Excuses q e
  | unscoped (needed : q.needsScope = true) (missing : q.scope = "") :
      host.Excuses q .missingScope

/-- An operation does to the keyring what it does to the maps: to the entry of its kind and scope
and to no other, and if it fails to none at all. -/
structure Settles (host : Host σ) (secrets : Secrets) (ring : Keyring) (q : Request)
    (result : Except Error q.Result) (ring' : Keyring) : Prop where
  holds : Holds ring' (secrets.after q result)
  shown : ∀ value, result = .ok value → q.Shows (secrets.after q result q.kind q.scope) value
  refused : ∀ e, result = .error e → host.Excuses q e ∧ ring' = ring
  apart : ∀ name, q.kind.entry q.scope ≠ name → ring'.get? name = ring.get? name

theorem settles_error {e : Error} (holds : Holds ring secrets) (why : host.Excuses q e)
    (same : ring' = ring) : Settles host secrets ring q (.error e) ring' where
  holds := same ▸ holds
  shown := nofun
  refused := by
    rintro _ ⟨⟩
    exact ⟨why, same⟩
  apart := fun _ _ => by rw [same]

theorem settles_ok {value : q.Result} (holds : Holds ring secrets)
    (puts : ring.Puts (q.kind.entry q.scope) (q.leaves (secrets q.kind q.scope) value) ring')
    (shown : q.Shows (q.leaves (secrets q.kind q.scope) value) value) :
    Settles host secrets ring q (.ok value) ring' where
  holds := holds.puts puts
  shown := by
    rintro _ ⟨⟩
    rw [Secrets.after, Secrets.set_apply, if_pos ⟨rfl, rfl⟩]
    exact shown
  refused := nofun
  apart := fun name other => (puts name).trans (if_neg other)

theorem settles_unchanged {value : q.Result} (holds : Holds ring secrets) (same : ring' = ring)
    (kept : q.leaves (secrets q.kind q.scope) value = secrets q.kind q.scope)
    (shown : q.Shows (secrets q.kind q.scope) value) :
    Settles host secrets ring q (.ok value) ring' := by
  refine settles_ok holds ?_ ?_
  · rw [kept, same]
    exact holds.puts_self q.kind q.scope
  · rw [kept]
    exact shown

/-! ## One operation -/

/-- A key that is yielded is in the keyring then. -/
theorem ends_loadOrCreateMasterKey (honest : host.Honest) (holds : Holds s.ring secrets)
    (profile : String) :
    (loadOrCreateMasterKey profile).Ends host.answer s fun result s' =>
      host.AllOrNothing (fun key ring => key = (secrets .masterKey profile).getD key ∧
        s.ring.Puts (masterKeyEntry profile) (some key) ring) s.ring result s'.ring := by
  refine (ends_readEntry honest holds .masterKey profile).bind ?_ ?_
  · rintro found s₁ (⟨e, failed, -⟩ | ⟨_, ⟨⟩, same, read⟩)
    · cases failed
    · rw [← read]
      cases found with
      | some key =>
        have stays := holds.puts_self .masterKey profile
        rw [← read] at stays
        exact .inr ⟨key, rfl, rfl, same ▸ stays⟩
      | none =>
        refine Dialogue.Ends.ask rfl ?_
        rw [← same]
        refine (ends_writeEntry (masterKeyEntry profile) _).bind ?_ ?_
        · rintro _ s₂ (⟨e, failed, -⟩ | ⟨_, -, puts⟩)
          · cases failed
          · exact .inr ⟨_, rfl, rfl, puts⟩
        · rintro e s₂ (⟨_, ⟨⟩, why, unwritten⟩ | ⟨_, done, -⟩)
          · exact .inl ⟨e, rfl, why, unwritten⟩
          · cases done
  · rintro e s₁ (⟨_, ⟨⟩, why, same⟩ | ⟨_, done, -⟩)
    · exact .inl ⟨e, rfl, why, same⟩
    · cases done

/-- Whatever is asked for, and wherever the keyring fails. -/
theorem Request.settles (honest : host.Honest) (holds : Holds s.ring secrets) (q : Request) :
    q.operation.Ends host.answer s fun result s' =>
      Settles host secrets s.ring q result s'.ring := by
  cases q with
  | masterKey profile =>
    refine (ends_readEntry honest holds .masterKey profile).mono ?_
    rintro _ s' (⟨e, rfl, why, same⟩ | ⟨found, rfl, same, read⟩)
    · exact settles_error holds (.failed why) same
    · exact settles_unchanged holds same rfl read
  | storeMasterKey profile key =>
    refine (ends_writeEntry (masterKeyEntry profile) key).mono ?_
    rintro _ s' (⟨e, rfl, why, same⟩ | ⟨_, rfl, puts⟩)
    · exact settles_error holds (.failed why) same
    · exact settles_ok holds puts trivial
  | loadOrCreateMasterKey profile =>
    refine (ends_loadOrCreateMasterKey honest holds profile).mono ?_
    rintro _ s' (⟨e, rfl, why, same⟩ | ⟨key, rfl, kept, puts⟩)
    · exact settles_error holds (.failed why) same
    · rw [kept] at puts
      exact settles_ok holds puts (congrArg some kept)
  | apiPassword provider =>
    by_cases missing : provider = ""
    · subst missing
      exact settles_error holds (.unscoped rfl rfl) rfl
    · have reads : (Request.apiPassword provider).operation
          = readEntry (Kind.apiPassword.entry provider) :=
        if_neg (mt String.isEmpty_iff.1 missing)
      rw [reads]
      refine (ends_readEntry honest holds .apiPassword provider).mono ?_
      rintro _ s' (⟨e, rfl, why, same⟩ | ⟨found, rfl, same, read⟩)
      · exact settles_error holds (.failed why) same
      · exact settles_unchanged holds same rfl read
  | storeApiPassword provider password =>
    by_cases missing : provider = ""
    · subst missing
      exact settles_error holds (.unscoped rfl rfl) rfl
    · have writes : (Request.storeApiPassword provider password).operation
          = writeEntry (passwordEntry provider) password :=
        if_neg (mt String.isEmpty_iff.1 missing)
      rw [writes]
      refine (ends_writeEntry (passwordEntry provider) password).mono ?_
      rintro _ s' (⟨e, rfl, why, same⟩ | ⟨_, rfl, puts⟩)
      · exact settles_error holds (.failed why) same
      · exact settles_ok holds puts trivial
  | deleteApiPassword provider =>
    refine (ends_eraseEntry honest (passwordEntry provider)).mono ?_
    rintro _ s' (⟨e, rfl, why, same⟩ | ⟨_, rfl, puts⟩)
    · exact settles_error holds (.failed why) same
    · exact settles_ok holds puts trivial

/-! ## Sequences of operations -/

/-- An operation that was performed, and what it ended with. -/
structure Event where
  request : Request
  result : Except Error request.Result

/-- The maps after a sequence of operations: of each secret what was stored last and not deleted
since. -/
def Secrets.afterAll (secrets : Secrets) (events : List Event) : Secrets :=
  events.foldl (fun secrets e => secrets.after e.request e.result) secrets

/-- No secret at all. -/
def Secrets.none : Secrets := fun _ _ => Option.none

/-- Performs operations one after another. -/
def Host.run (host : Host σ) : List Request → Scene σ → List Event × Scene σ
  | [], s => ([], s)
  | q :: requests, s =>
    let ended := q.operation.runFrom host.answer s
    let others := host.run requests ended.2
    (⟨q, ended.1⟩ :: others.1, others.2)

/-- Is the operation on the secret of that kind and scope? -/
def Event.isAbout (kind : Kind) (scope : String) (e : Event) : Bool :=
  e.request.kind == kind && e.request.scope == scope

theorem Secrets.after_of_isAbout_eq_false {e : Event} (apart : e.isAbout kind scope = false) :
    secrets.after e.request e.result kind scope = secrets kind scope := by
  cases e.result with
  | error _ => rfl
  | ok value =>
    rw [after, set_apply, if_neg]
    rintro ⟨rfl, rfl⟩
    simp [Event.isAbout] at apart

theorem Secrets.after_congr {secrets' : Secrets} {e : Event} (about : e.isAbout kind scope = true)
    (same : secrets kind scope = secrets' kind scope) :
    secrets.after e.request e.result kind scope = secrets'.after e.request e.result kind scope := by
  simp only [Event.isAbout, Bool.and_eq_true, beq_iff_eq] at about
  obtain ⟨rfl, rfl⟩ := about
  cases e.result with
  | error _ => exact same
  | ok value => rw [after, after, set_apply, set_apply, same]

/-- A secret comes from the operations on it alone, whatever was done between them. -/
theorem Secrets.afterAll_filter {secrets' : Secrets} (events : List Event)
    (same : secrets kind scope = secrets' kind scope) :
    secrets.afterAll events kind scope
      = secrets'.afterAll (events.filter (Event.isAbout kind scope)) kind scope := by
  induction events generalizing secrets secrets' with
  | nil => exact same
  | cons e events ih =>
    cases about : e.isAbout kind scope with
    | true =>
      rw [List.filter_cons_of_pos about]
      exact ih (after_congr about same)
    | false =>
      rw [List.filter_cons_of_neg (Bool.eq_false_iff.1 about)]
      exact ih ((after_of_isAbout_eq_false about).trans same)

theorem holds_empty (others : σ) : Holds (Scene.mk [] others).ring .none := fun _ _ => rfl

theorem holds_run (honest : host.Honest) (holds : Holds s.ring secrets)
    (requests : List Request) :
    Holds (host.run requests s).2.ring (secrets.afterAll (host.run requests s).1) := by
  induction requests generalizing s secrets with
  | nil => exact holds
  | cons q requests ih => exact ih (q.settles honest holds).holds

/-! ## Master keys -/

section MasterKeys

variable {profile key : String}

/-- No master key of the profile was stored by an operation of its own. -/
def Unstored (profile : String) (events : List Event) : Prop :=
  ∀ other, Event.mk (.storeMasterKey profile other) (.ok ()) ∉ events

/-- Only a key that is stored takes the place of a master key. -/
theorem leaves_masterKey (about : q.kind = .masterKey) (value : q.Result)
    (unstored : ∀ other, Event.mk q (.ok value) ≠ ⟨.storeMasterKey q.scope other, .ok ()⟩) :
    q.leaves (some key) value = some key := by
  cases q with
  | masterKey | loadOrCreateMasterKey => rfl
  | storeMasterKey profile other => exact absurd rfl (unstored other)
  | apiPassword | storeApiPassword | deleteApiPassword => cases about

theorem after_masterKey (kept : secrets .masterKey profile = some key)
    {result : Except Error q.Result}
    (unstored : ∀ other, Event.mk q result ≠ ⟨.storeMasterKey profile other, .ok ()⟩) :
    secrets.after q result .masterKey profile = some key := by
  cases result with
  | error e => exact kept
  | ok value =>
    rw [Secrets.after, Secrets.set_apply]
    split
    · rename_i same
      obtain ⟨about, rfl⟩ := same
      rw [about, kept]
      exact leaves_masterKey about value unstored
    · exact kept

theorem afterAll_masterKey {events : List Event} (kept : secrets .masterKey profile = some key)
    (unstored : Unstored profile events) :
    secrets.afterAll events .masterKey profile = some key := by
  induction events generalizing secrets with
  | nil => exact kept
  | cons e events ih =>
    refine ih (after_masterKey kept ?_) ?_
    · intro other same
      exact unstored other (same ▸ List.mem_cons_self)
    · exact fun other later => unstored other (List.mem_cons_of_mem e later)

/-- The key is in the keyring, and whatever is done next, unless another one is stored in its
place, a load that succeeds yields this one. -/
structure Kept (host : Host σ) (profile key : String) (s : Scene σ) : Prop where
  stored : s.ring.read (masterKeyEntry profile) = .ok key
  loaded : ∀ requests, Unstored profile (host.run requests s).1 →
    (loadOrCreateMasterKey profile).Ends host.answer (host.run requests s).2 fun result _ =>
      ∀ later, result = .ok later → later = key
  found : ∀ requests, Unstored profile (host.run requests s).1 →
    (masterKey profile).Ends host.answer (host.run requests s).2 fun result _ =>
      ∀ later, result = .ok later → later = some key

theorem kept_of_holds (honest : host.Honest) (holds : Holds s.ring secrets)
    (there : secrets .masterKey profile = some key) : Kept host profile key s where
  stored := by
    have read := holds.read .masterKey profile
    rw [there] at read
    exact read
  loaded := by
    intro requests unstored
    refine (ends_loadOrCreateMasterKey honest (holds_run honest holds requests) profile).mono ?_
    rintro _ s' (⟨e, rfl, -⟩ | ⟨later, rfl, same, -⟩)
    · nofun
    · rw [afterAll_masterKey there unstored] at same
      rintro _ ⟨⟩
      exact same
  found := by
    intro requests unstored
    refine (ends_readEntry honest (holds_run honest holds requests) .masterKey profile).mono ?_
    rintro _ s' (⟨e, rfl, -⟩ | ⟨found, rfl, -, read⟩)
    · nofun
    · rintro _ ⟨⟩
      rw [read, afterAll_masterKey there unstored]

end MasterKeys

/-! ## The outcome -/

/-- After some operations the keyring is two maps. -/
structure TwoMaps (host : Host σ) (events : List Event) (s : Scene σ) : Prop where
  /-- The next operation is done to the maps that the operations before have made. -/
  settles : ∀ q : Request, q.operation.Ends host.answer s fun result s' =>
    Settles host (Secrets.none.afterAll events) s.ring q result s'.ring
  /-- Each secret comes from the operations on it alone. -/
  separate : ∀ kind scope, Secrets.none.afterAll events kind scope
    = Secrets.none.afterAll (events.filter (Event.isAbout kind scope)) kind scope
  /-- A master key that is yielded stays. -/
  kept : ∀ profile, (loadOrCreateMasterKey profile).Ends host.answer s fun result s' =>
    ∀ key, result = .ok key → Kept host profile key s'

/-- From an empty keyring and with any operations, whichever accesses may fail. -/
theorem twoMaps_run (honest : host.Honest) (requests : List Request) (others : σ) :
    TwoMaps host (host.run requests ⟨[], others⟩).1 (host.run requests ⟨[], others⟩).2 := by
  have holds := holds_run honest (holds_empty others) requests
  refine ⟨fun q => q.settles honest holds, fun _ _ => Secrets.afterAll_filter _ rfl, ?_⟩
  intro profile
  refine ((Request.loadOrCreateMasterKey profile).settles honest holds).mono ?_
  rintro _ s' settled key rfl
  exact kept_of_holds honest settled.holds (settled.shown key rfl).symm

/-- A host with whom every sixth access fails. -/
def flaky : Host Nat where
  failure? _ n := (if n % 6 = 5 then some (.noAccess "locked") else none, n + 1)
  randomBytes count n := (List.replicate count (UInt8.ofNat n), n)

theorem flaky_honest : flaky.Honest := by
  have other : ∀ a n, (flaky.failure? a n).1 ≠ some .noEntry := by
    intro a n
    show (if n % 6 = 5 then _ else _) ≠ _
    split <;> nofun
  exact ⟨fun key => other (.read key), fun key => other (.erase key)⟩

/-- A password of a provider that is named like a master key, the master key that has this name,
and the empty scopes. -/
def mixedRequests : List Request :=
  [.storeApiPassword "master_key_a" "one", .loadOrCreateMasterKey "a", .loadOrCreateMasterKey "a",
    .storeMasterKey "" "two", .deleteApiPassword "", .storeApiPassword "" "three"]

/-- The first load fails when it is to write its key, and so does the store of another one; the last
operation lacks a scope. -/
theorem twoMaps_run_flaky :
    flaky.Honest ∧
      (flaky.run mixedRequests ⟨[], 0⟩).1.map (fun e => e.result.isOk)
        = [true, false, true, false, true, false] ∧
      TwoMaps flaky (flaky.run mixedRequests ⟨[], 0⟩).1 (flaky.run mixedRequests ⟨[], 0⟩).2 :=
  ⟨flaky_honest, by decide +kernel, twoMaps_run flaky_honest mixedRequests 0⟩

end MailboxKeeper.Credential.Keychain
