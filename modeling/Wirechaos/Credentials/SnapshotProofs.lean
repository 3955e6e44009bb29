/-
  Wirechaos.Credentials.SnapshotProofs — what a user list makes (see `snapshotFromYaml` in
  `Wirechaos.Credentials.Store`).

  The loop over the entries goes on after an error. `Loaded` is what it has after some of
  them: every failure so far, entry by entry, and, while there is none, a verifier for each
  name. `snapshot_complete_or_refused` reads off which lists are accepted, what the
  snapshot of an accepted one holds and what is reported of a refused one.
-/

import Mathlib.Data.List.Induction
import Wirechaos.Auth.ScramProofs
import Wirechaos.Credentials.Store

namespace Wirechaos

open Text Async

namespace Snapshot

variable (C : Crypto) (L : Loader) (salts : Nat → Bytes)

/-! ## One entry -/

/-- Exactly one of the two fields is there, and it is good. -/
def OneSecret (user : RawUser) : Prop :=
  (∃ password, user.password = some password ∧ password ≠ [] ∧ user.scramSecret = none) ∨
    ∃ secret verifier, user.password = none ∧ user.scramSecret = some secret ∧ Verifier.fromPgSecret secret = .ok verifier

/-- The verifier is made of the entry, with one of the salts. -/
def DerivedFrom (user : RawUser) (verifier : Verifier) : Prop :=
  (∃ password i, user.password = some password ∧ verifier = deriveVerifier C L password (salts i) defaultIterations) ∨
    ∃ secret, user.scramSecret = some secret ∧ Verifier.fromPgSecret secret = .ok verifier

/-- An entry behind entries of these names. -/
def ValidEntry (before : List Str) (user : RawUser) : Prop :=
  user.name ≠ [] ∧ '\x00' ∉ user.name ∧ user.name ∉ before ∧ OneSecret user

/-- What is reported of an entry behind entries of these names. -/
def faults (before : List Str) (user : RawUser) : List EntryError :=
  nameErrors before user.name ++ match entryVerifier C L salts 0 user with
    | .error e => [e]
    | .ok _ => []

variable {C L salts} {user : RawUser} {drawn : Nat}

theorem entryVerifier_ok {verifier : Verifier} {drawn' : Nat} (h : entryVerifier C L salts drawn user = .ok (verifier, drawn')) :
    OneSecret user ∧ DerivedFrom C L salts user verifier := by
  unfold entryVerifier at h
  split at h
  · rename_i password hpassword hsecret
    by_cases hempty : password = []
    · simp [hempty] at h
    · simp only [if_neg hempty, Except.ok.injEq, Prod.mk.injEq] at h
      exact ⟨.inl ⟨password, hpassword, hempty, hsecret⟩, .inl ⟨password, drawn, hpassword, h.1.symm⟩⟩
  · rename_i secret hpassword hsecret
    cases hparse : Verifier.fromPgSecret secret with
    | error e => simp [hparse] at h
    | ok v =>
      simp only [hparse, Except.ok.injEq, Prod.mk.injEq] at h
      rw [h.1] at hparse
      exact ⟨.inr ⟨secret, verifier, hpassword, hsecret, hparse⟩, .inr ⟨secret, hsecret, hparse⟩⟩
  · cases h

theorem entryVerifier_error {e : EntryError} (h : entryVerifier C L salts drawn user = .error e) :
    ¬OneSecret user ∧ e.user = some user.name := by
  unfold entryVerifier at h
  split at h
  · rename_i password hpassword hsecret
    by_cases hempty : password = []
    · simp only [if_pos hempty, Except.error.injEq] at h
      exact ⟨by simp [OneSecret, hpassword, hempty], by rw [← h]⟩
    · simp [hempty] at h
  · rename_i secret hpassword hsecret
    cases hparse : Verifier.fromPgSecret secret with
    | error e' =>
      simp only [hparse, Except.error.injEq] at h
      exact ⟨by simp [OneSecret, hpassword, hsecret, hparse], by rw [← h]⟩
    | ok v => simp [hparse] at h
  · rename_i hneither hboth
    refine ⟨?_, by rw [← Except.error.inj h]⟩
    intro hone
    cases hone with
    | inl hpassword =>
      obtain ⟨password, hpassword, -, hsecret⟩ := hpassword
      exact hneither password hpassword hsecret
    | inr hsecret =>
      obtain ⟨secret, -, hpassword, hsecret, -⟩ := hsecret
      exact hboth secret hpassword hsecret

/-- The salts make no difference to what is wrong with an entry. -/
theorem entryVerifier_error_iff (drawn' : Nat) (e : EntryError) :
    entryVerifier C L salts drawn user = .error e ↔ entryVerifier C L salts drawn' user = .error e := by
  unfold entryVerifier
  split
  · split <;> simp
  · split <;> simp
  · simp

/-- Only the failure of an empty name goes without it. -/
theorem user_of_mem_nameErrors {before : List Str} {name : Str} {e : EntryError} (h : e ∈ nameErrors before name)
    (hname : name ≠ []) : e.user = some name := by
  simp only [nameErrors, if_neg hname, List.nil_append, List.mem_append] at h
  rcases h with h | h <;> split at h <;> simp at h <;> simp [h]

theorem faults_eq_nil {before : List Str} : faults C L salts before user = [] ↔ ValidEntry before user := by
  unfold faults ValidEntry
  rw [List.append_eq_nil_iff, nameErrors_eq_nil]
  cases hentry : entryVerifier C L salts 0 user with
  | error e => simp [(entryVerifier_error hentry).1]
  | ok p => simp [(entryVerifier_ok hentry).1]

theorem user_of_mem_faults {before : List Str} {e : EntryError} (h : e ∈ faults C L salts before user) (hname : user.name ≠ []) :
    e.user = some user.name := by
  unfold faults at h
  rw [List.mem_append] at h
  cases h with
  | inl h => exact user_of_mem_nameErrors h hname
  | inr h =>
    cases hentry : entryVerifier C L salts 0 user with
    | error e' =>
      simp only [hentry, List.mem_singleton] at h
      rw [h]
      exact (entryVerifier_error hentry).2
    | ok p => simp [hentry] at h

theorem faults_congr {before before' : List Str} (h : ∀ name, name ∈ before ↔ name ∈ before') :
    faults C L salts before user = faults C L salts before' user := by
  simp only [faults, nameErrors, h]

/-! ## The loop -/

variable (C L salts) in
/-- What is reported of the entry at a place of the list. -/
def faultsAt (users : List RawUser) (i : Nat) : List EntryError :=
  match users[i]? with
  | none => []
  | some user => faults C L salts ((users.take i).map (·.name)) user

theorem faultsAt_append_left {users : List RawUser} {i : Nat} (h : i < users.length) (rest : List RawUser) :
    faultsAt C L salts (users ++ rest) i = faultsAt C L salts users i := by
  unfold faultsAt
  rw [List.getElem?_append_left h, List.take_append_of_le_length (Nat.le_of_lt h)]

theorem faultsAt_concat (users : List RawUser) (user : RawUser) :
    faultsAt C L salts (users ++ [user]) users.length = faults C L salts (users.map (·.name)) user := by
  simp [faultsAt]

/-- One more entry, and what is reported of those before it is the same. -/
theorem flatMap_faultsAt_concat (users : List RawUser) (user : RawUser) :
    (List.range (users ++ [user]).length).flatMap (faultsAt C L salts (users ++ [user])) =
      (List.range users.length).flatMap (faultsAt C L salts users) ++ faults C L salts (users.map (·.name)) user := by
  have hbefore : (List.range users.length).flatMap (faultsAt C L salts (users ++ [user])) =
      (List.range users.length).flatMap (faultsAt C L salts users) := by
    rw [List.flatMap_def, List.flatMap_def]
    congr 1
    exact List.map_congr_left fun i hi => faultsAt_append_left (List.mem_range.mp hi) [user]
  rw [List.length_append, List.length_singleton, List.range_succ, List.flatMap_append, hbefore, List.flatMap_singleton,
    faultsAt_concat]

variable (C L salts) in
/-- What the loop has after some entries. -/
structure Loaded (start : List EntryError) (users : List RawUser) (acc : Loading) : Prop where
  errors : acc.errors = start ++ (List.range users.length).flatMap (faultsAt C L salts users)
  seen : ∀ name, name ∈ acc.seen ↔ name ∈ users.map (·.name)
  /-- Without an error, each entry has its verifier. -/
  keys : acc.errors = [] → acc.users.keys = (users.map (·.name)).reverse
  verifiers : acc.errors = [] → ∀ user ∈ users, ∃ verifier, acc.users.lookup user.name = some verifier ∧
    DerivedFrom C L salts user verifier

theorem Loaded.load {start : List EntryError} {users : List RawUser} {acc : Loading} (h : Loaded C L salts start users acc)
    (user : RawUser) : Loaded C L salts start (users ++ [user]) (load C L salts acc user) := by
  have herrors : start ++ (List.range (users ++ [user]).length).flatMap (faultsAt C L salts (users ++ [user])) =
      acc.errors ++ faults C L salts acc.seen user := by
    rw [flatMap_faultsAt_concat, ← List.append_assoc, ← h.errors, faults_congr h.seen]
  have hseen : ∀ name, name ∈ (if user.name ∈ acc.seen then acc.seen else user.name :: acc.seen) ↔
      name ∈ (users ++ [user]).map (·.name) := by
    intro name
    rw [List.map_append, List.map_singleton, List.mem_append, List.mem_singleton, ← h.seen]
    by_cases hmem : user.name ∈ acc.seen
    · rw [if_pos hmem, iff_self_or]
      intro hname
      rwa [hname]
    · rw [if_neg hmem, List.mem_cons, or_comm]
  unfold Snapshot.load
  cases hentry : entryVerifier C L salts acc.drawn user with
  | error e =>
    have hsame : faults C L salts acc.seen user = nameErrors acc.seen user.name ++ [e] := by
      simp only [faults, (entryVerifier_error_iff 0 e).mp hentry]
    dsimp only
    exact ⟨by rw [herrors, hsame, List.append_assoc], hseen, by simp, by simp⟩
  | ok p =>
    obtain ⟨verifier, drawn⟩ := p
    have hsame : faults C L salts acc.seen user = nameErrors acc.seen user.name := by
      have hnone (e : EntryError) : entryVerifier C L salts 0 user ≠ .error e := fun he => by
        rw [(entryVerifier_error_iff acc.drawn e).mp he] at hentry
        cases hentry
      cases hzero : entryVerifier C L salts 0 user with
      | error e => exact absurd hzero (hnone e)
      | ok p => simp [faults, hzero]
    by_cases hwrong : nameErrors acc.seen user.name = []
    · have hnew : user.name ∉ users.map (·.name) := fun hmem =>
        (nameErrors_eq_nil.mp hwrong).2.2 ((h.seen user.name).mpr hmem)
      simp only [if_pos hwrong]
      refine ⟨by rw [herrors, hsame, hwrong, List.append_nil], hseen, ?_, ?_⟩
      · intro hclean
        have hkeys := h.keys hclean
        have hnotin : user.name ∉ acc.users := by rwa [AList.mem_keys, hkeys, List.mem_reverse]
        rw [AList.keys, AList.entries_insert_of_notMem hnotin, List.keys_cons, List.map_append, List.reverse_append, ← hkeys]
        rfl
      · intro hclean user' hmem
        rw [List.mem_append, List.mem_singleton] at hmem
        cases hmem with
        | inl hmem =>
          have hne : user'.name ≠ user.name := fun heq => hnew (heq ▸ List.mem_map_of_mem hmem)
          rw [AList.lookup_insert_ne hne]
          exact h.verifiers hclean user' hmem
        | inr heq =>
          rw [heq]
          exact ⟨verifier, AList.lookup_insert _, (entryVerifier_ok hentry).2⟩
    · simp only [if_neg hwrong]
      exact ⟨by rw [herrors, hsame], hseen, by simp [hwrong], by simp [hwrong]⟩

variable (C L salts) in
theorem loaded_foldl (start : List EntryError) (users : List RawUser) :
    Loaded C L salts start users (users.foldl (load C L salts) ⟨start, ∅, [], 0⟩) := by
  induction users using List.reverseRecOn with
  | nil => exact ⟨by simp, by simp, by simp, by simp⟩
  | append_singleton users user ih =>
    rw [List.foldl_append]
    exact ih.load user

/-! ## The whole list -/

theorem flatMap_faultsAt_eq_nil {users : List RawUser} :
    (List.range users.length).flatMap (faultsAt C L salts users) = [] ↔
      (∀ user ∈ users, user.name ≠ [] ∧ '\x00' ∉ user.name) ∧ (users.map (·.name)).Nodup ∧ ∀ user ∈ users, OneSecret user := by
  induction users using List.reverseRecOn with
  | nil => simp
  | append_singleton users user ih =>
    rw [flatMap_faultsAt_concat, List.append_eq_nil_iff, ih, faults_eq_nil, ValidEntry]
    simp only [List.forall_mem_append, List.map_append, List.map_singleton, List.nodup_append, List.nodup_singleton,
      List.mem_singleton, forall_eq, true_and]
    constructor
    · intro h
      obtain ⟨⟨hnames, hnodup, hsecrets⟩, hname, hnul, hnew, hsecret⟩ := h
      exact ⟨⟨hnames, hname, hnul⟩, ⟨hnodup, fun a ha heq => hnew (heq ▸ ha)⟩, hsecrets, hsecret⟩
    · intro h
      obtain ⟨⟨hnames, hname, hnul⟩, ⟨hnodup, hnew⟩, hsecrets, hsecret⟩ := h
      exact ⟨⟨hnames, hnodup, hsecrets⟩, hname, hnul, fun ha => hnew _ ha rfl, hsecret⟩

/-- A list is accepted exactly when it has entries, their names are non-empty, free of NUL
    and distinct, and each has one good secret. The snapshot then has a verifier for each
    entry and for nothing else. Of a refused list every invalid entry is reported, each on
    its own and under its name. -/
theorem snapshot_complete_or_refused (C : Crypto) (L : Loader) (salts : Nat → Bytes) (text : Str) (users : List RawUser)
    (hyaml : L.yaml text = some users) :
    ((∃ snapshot, snapshotFromYaml C L salts text = .ok snapshot) ↔
      users ≠ [] ∧ (∀ user ∈ users, user.name ≠ [] ∧ '\x00' ∉ user.name) ∧ (users.map (·.name)).Nodup ∧
        ∀ user ∈ users, OneSecret user) ∧
    (∀ snapshot, snapshotFromYaml C L salts text = .ok snapshot →
      snapshot.users.keys.Perm (users.map (·.name)) ∧
        ∀ user ∈ users, ∃ verifier, snapshot.users.lookup user.name = some verifier ∧ DerivedFrom C L salts user verifier) ∧
    ∀ report, snapshotFromYaml C L salts text = .error report →
      ∃ (start : List EntryError) (reported : Nat → List EntryError),
        report.entries = start ++ (List.range users.length).flatMap reported ∧
        ∀ i user, users[i]? = some user → (reported i = [] ↔ ValidEntry ((users.take i).map (·.name)) user) ∧
          (user.name ≠ [] → ∀ e ∈ reported i, e.user = some user.name) := by
  generalize hstart : (if users = [] then [⟨none, "users", "at least one user is required"⟩] else [] : List EntryError) = start
  have hempty : start = [] ↔ users ≠ [] := by
    rw [← hstart]
    by_cases h : users = [] <;> simp [h]
  have hloaded := loaded_foldl C L salts start users
  generalize hacc : users.foldl (load C L salts) ⟨start, ∅, [], 0⟩ = acc at hloaded
  have hrun : snapshotFromYaml C L salts text = if acc.errors = [] then .ok ⟨0, acc.users⟩ else .error ⟨acc.errors⟩ := by
    simp only [snapshotFromYaml, hyaml, hstart, hacc]
  have hclean : acc.errors = [] ↔ users ≠ [] ∧ (∀ user ∈ users, user.name ≠ [] ∧ '\x00' ∉ user.name) ∧
      (users.map (·.name)).Nodup ∧ ∀ user ∈ users, OneSecret user := by
    rw [hloaded.errors, List.append_eq_nil_iff, hempty, flatMap_faultsAt_eq_nil]
  rw [hrun, ← hclean]
  by_cases hgood : acc.errors = []
  · rw [if_pos hgood]
    refine ⟨by simp [hgood], ?_, by simp⟩
    intro snapshot h
    cases h
    refine ⟨?_, hloaded.verifiers hgood⟩
    rw [hloaded.keys hgood]
    exact List.reverse_perm _
  · rw [if_neg hgood]
    refine ⟨by simp [hgood], by simp, ?_⟩
    intro report h
    cases h
    refine ⟨start, faultsAt C L salts users, hloaded.errors, ?_⟩
    intro i user hi
    have hat : faultsAt C L salts users i = faults C L salts ((users.take i).map (·.name)) user := by simp [faultsAt, hi]
    rw [hat]
    exact ⟨faults_eq_nil, fun hname e he => user_of_mem_faults he hname⟩

end Snapshot

namespace Sample

/-- The second entry repeats a name. -/
def repeatedName : List RawUser := [⟨"alice", some "pencil", none⟩, ⟨"alice", some "crayon", none⟩]

def repeatedLoader : Loader where
  yaml _ := some repeatedName
  saslprep := some

end Sample

theorem snapshot_complete_or_refused_repeated :
    ∃ report start reported,
      Snapshot.snapshotFromYaml Sample.crypto Sample.repeatedLoader (fun _ => Sample.salt) [] = .error report ∧
      report.entries = start ++ (List.range 2).flatMap reported ∧ reported 1 ≠ [] ∧
      ∀ e ∈ reported 1, e.user = some "alice".toList := by
  obtain ⟨haccepted, -, hrefused⟩ := Snapshot.snapshot_complete_or_refused Sample.crypto Sample.repeatedLoader
    (fun _ => Sample.salt) [] Sample.repeatedName rfl
  cases hrun : Snapshot.snapshotFromYaml Sample.crypto Sample.repeatedLoader (fun _ => Sample.salt) [] with
  | ok snapshot => exact absurd (haccepted.mp ⟨snapshot, hrun⟩).2.2.1 (by decide)
  | error report =>
    obtain ⟨start, reported, hentries, hreported⟩ := hrefused report hrun
    obtain ⟨hinvalid, hname⟩ := hreported 1 ⟨"alice", some "crayon", none⟩ rfl
    refine ⟨report, start, reported, rfl, hentries, fun hnil => ?_, hname (by decide)⟩
    exact absurd (hinvalid.mp hnil).2.2.1 (by decide)

end Wirechaos
