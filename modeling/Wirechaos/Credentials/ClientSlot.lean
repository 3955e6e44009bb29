/-
  Wirechaos.Credentials.ClientSlot — the lookup connection of an `AuthQuerySource`
  (`ensure_connected`, `query_backend` in auth/credentials/auth_query.rs).

  All lookups share one slot with at most one client. A lookup locks it twice: to connect
  if it is empty, and to send its query. A query that fails empties the slot. `Slots` is
  any number of lookups cut between the two, with connections that break at any time; the
  list of failures and the numbers of the lookups are ghosts.

  In every run (`slot_accounting`): a connection fails at most one query and is not used
  again; a new one is opened only when the last one has failed, so that none is lost; and
  a lookup is told that there is no client only when a query failed since it had
  connected. After any run the second of two lookups gets its answer, whatever became of
  the connection before (`recovers`).
-/

import Mathlib.Data.List.Nodup
import Mathlib.Logic.Function.Basic
import Wirechaos.Lib.Machine
import Wirechaos.Lib.Strings

namespace Wirechaos

open Text Machine

/-- `Mutex<Option<Client>>`; clients are numbered as they are opened. -/
structure ClientSlot where
  client : Option Nat
  opened : Nat
  deriving DecidableEq

/-- Why a user's row could not be read. -/
inductive QueryError where
  | noClient
  | database (reason : Str)
  deriving DecidableEq

def QueryError.text : QueryError → Str
  | .noClient => "auth_query client unavailable"
  | .database reason => reason

/-- What the database sends back: a row with its second column or a column of another
    type, no row, or a failure. -/
inductive Reply where
  | row (column : Except Str (Option Str))
  | noRow
  | failed (reason : Str)

def Reply.result : Reply → Except QueryError (Option Str)
  | .row column => column.mapError .database
  | .noRow => .ok none
  | .failed reason => .error (.database reason)

namespace ClientSlot

/-- `ensure_connected`; `attempt` is how an attempt to connect ends. -/
def ensureConnected (slot : ClientSlot) (attempt : Except Str Unit) : Except QueryError Unit × ClientSlot :=
  match slot.client with
  | some _ => (.ok (), slot)
  | none =>
    match attempt with
    | .ok () => (.ok (), { client := some slot.opened, opened := slot.opened + 1 })
    | .error reason => (.error (.database reason), slot)

/-- The part of `query_backend` behind `ensure_connected`. -/
def sendQuery (slot : ClientSlot) (reply : Reply) : Except QueryError (Option Str) × ClientSlot :=
  match slot.client with
  | none => (.error .noClient, slot)
  | some _ =>
    match reply with
    | .row column => (column.mapError .database, slot)
    | .noRow => (.ok none, slot)
    | .failed reason => (.error (.database reason), { slot with client := none })

end ClientSlot

/-- Where a lookup is; `failures` is how many queries had failed when it was connected. -/
inductive SlotCall where
  | idle
  | connected (failures : Nat)
  | unreachable
  | finished (failures : Nat) (result : Except QueryError (Option Str))

inductive SlotAct where
  | connect (i : Nat) (attempt : Except Str Unit)
  | query (i : Nat) (reply : Reply)
  /-- A connection that was opened breaks; every query on it fails from now on. -/
  | sever (client : Nat) (reason : Str)

structure Slots where
  slot : ClientSlot
  severed : Nat → Option Str
  /-- The connections whose query failed, one entry for each failure. -/
  failed : List Nat
  calls : Nat → SlotCall

namespace Slots

def start : Slots := ⟨⟨none, 0⟩, fun _ => none, [], fun _ => .idle⟩

/-- What becomes of a reply on the connection in the slot. -/
def delivered (s : Slots) (reply : Reply) : Reply :=
  match s.slot.client.bind s.severed with
  | some reason => .failed reason
  | none => reply

def setCall (s : Slots) (i : Nat) (call : SlotCall) : Slots := { s with calls := Function.update s.calls i call }

def step (s : Slots) : SlotAct → Slots
  | .connect i attempt =>
    match s.calls i with
    | .idle =>
      match s.slot.ensureConnected attempt with
      | (.ok (), slot) => { s with slot }.setCall i (.connected s.failed.length)
      | (.error _, slot) => { s with slot }.setCall i .unreachable
    | _ => s
  | .query i reply =>
    match s.calls i with
    | .connected failures =>
      let (result, slot) := s.slot.sendQuery (s.delivered reply)
      let failed :=
        match s.slot.client, s.delivered reply with
        | some client, .failed _ => s.failed ++ [client]
        | _, _ => s.failed
      { s with slot, failed }.setCall i (.finished failures result)
    | _ => s
  | .sever client reason =>
    if client < s.slot.opened then { s with severed := Function.update s.severed client (some reason) } else s

/-! ## What a lookup does to the slot -/

/-- Before and after: nothing was opened or lost, a client was opened, or one has failed. -/
inductive Effect (s : Slots) : Slots → Prop
  | still {s' : Slots} : s'.slot = s.slot → s'.failed = s.failed → Effect s s'
  | opened {s' : Slots} : s.slot.client = none → s'.slot = ⟨some s.slot.opened, s.slot.opened + 1⟩ → s'.failed = s.failed →
      Effect s s'
  | failed {s' : Slots} (client : Nat) : s.slot.client = some client → s'.slot = { s.slot with client := none } →
      s'.failed = s.failed ++ [client] → Effect s s'

theorem connect_effect (s : Slots) (i : Nat) (attempt : Except Str Unit) : Effect s (s.step (.connect i attempt)) := by
  simp only [step]
  split
  · rcases hclient : s.slot.client with _ | client
    · rcases attempt with reason | ⟨⟩
      · simp only [ClientSlot.ensureConnected, hclient]
        exact .still rfl rfl
      · simp only [ClientSlot.ensureConnected, hclient]
        exact .opened hclient rfl rfl
    · simp only [ClientSlot.ensureConnected, hclient]
      exact .still rfl rfl
  · exact .still rfl rfl

theorem query_effect (s : Slots) (i : Nat) (reply : Reply) : Effect s (s.step (.query i reply)) := by
  simp only [step]
  split
  · rcases hclient : s.slot.client with _ | client
    · simp only [ClientSlot.sendQuery, hclient]
      exact .still rfl rfl
    · rcases hreply : s.delivered reply with column | _ | reason
      · simp only [ClientSlot.sendQuery, hclient]
        exact .still rfl rfl
      · simp only [ClientSlot.sendQuery, hclient]
        exact .still rfl rfl
      · simp only [ClientSlot.sendQuery, hclient]
        exact .failed client hclient rfl rfl
  · exact .still rfl rfl

theorem step_effect (s : Slots) (a : SlotAct) : Effect s (s.step a) := by
  cases a with
  | connect i attempt => exact connect_effect s i attempt
  | query i reply => exact query_effect s i reply
  | sever client reason =>
    simp only [step]
    split
    · exact .still rfl rfl
    · exact .still rfl rfl

/-! ## Over a run -/

/-- A lookup that is connected finds a client unless a query has failed since, and one
    that was told that there is none came behind such a failure. -/
def Blamed (s : Slots) : SlotCall → Prop
  | .idle => True
  | .connected failures => failures ≤ s.failed.length ∧ (s.slot.client = none → failures < s.failed.length)
  | .unreachable => True
  | .finished failures result =>
    failures ≤ s.failed.length ∧ (result = .error .noClient → failures < s.failed.length)

structure Accounted (s : Slots) : Prop where
  /-- Every connection has failed or is in the slot. -/
  opened : s.slot.opened = s.failed.length + s.slot.client.toList.length
  failed : ∀ client ∈ s.failed, client < s.slot.opened
  once : s.failed.Nodup
  current : ∀ client, s.slot.client = some client → client < s.slot.opened ∧ client ∉ s.failed

theorem accounted_start : Accounted start := by
  refine ⟨rfl, ?_, List.nodup_nil, ?_⟩
  · intro client hmem
    cases hmem
  · intro client hclient
    cases hclient

theorem Accounted.of_effect {s s' : Slots} (h : Accounted s) (heffect : Effect s s') : Accounted s' := by
  obtain ⟨hopened, hfailed, honce, hcurrent⟩ := h
  cases heffect with
  | still hslot hlist => exact ⟨by rw [hslot, hlist]; exact hopened, by rw [hslot, hlist]; exact hfailed,
      by rw [hlist]; exact honce, by rw [hslot, hlist]; exact hcurrent⟩
  | opened hnone hslot hlist =>
    rw [hnone] at hopened
    simp only [Option.toList_none, List.length_nil] at hopened
    refine ⟨?_, ?_, by rw [hlist]; exact honce, ?_⟩
    · rw [hslot, hlist]
      show s.slot.opened + 1 = _
      rw [hopened]
      rfl
    · rw [hslot, hlist]
      intro client hmem
      have := hfailed client hmem
      show client < s.slot.opened + 1
      omega
    · rw [hslot, hlist]
      intro client hclient
      cases hclient
      refine ⟨Nat.lt_succ_self _, fun hmem => ?_⟩
      have := hfailed _ hmem
      omega
  | failed client hsome hslot hlist =>
    obtain ⟨hlt, hnew⟩ := hcurrent client hsome
    rw [hsome] at hopened
    simp only [Option.toList_some, List.length_singleton] at hopened
    refine ⟨?_, ?_, ?_, ?_⟩
    · rw [hslot, hlist, List.length_append]
      exact hopened
    · rw [hslot, hlist]
      intro c hmem
      rcases List.mem_append.mp hmem with hmem | hmem
      · exact hfailed c hmem
      · rw [List.mem_singleton.mp hmem]
        exact hlt
    · rw [hlist]
      exact List.nodup_append.mpr ⟨honce, List.nodup_singleton _, fun a ha b hb hab => by
        rw [List.mem_singleton.mp hb] at hab
        exact hnew (hab ▸ ha)⟩
    · rw [hslot]
      intro c hc
      cases hc

/-- More failures since. -/
theorem Blamed.of_effect {s s' : Slots} {call : SlotCall} (h : Blamed s call) (heffect : Effect s s') : Blamed s' call := by
  have hlength : s.failed.length ≤ s'.failed.length ∧
      (s'.slot.client = none → s.slot.client = none ∨ s.failed.length < s'.failed.length) := by
    cases heffect with
    | still hslot hlist => exact ⟨Nat.le_of_eq (by rw [hlist]), fun hnone => .inl (by rw [← hslot]; exact hnone)⟩
    | opened hnone hslot hlist => exact ⟨Nat.le_of_eq (by rw [hlist]), fun _ => .inl hnone⟩
    | failed client hsome hslot hlist =>
      have : s'.failed.length = s.failed.length + 1 := by rw [hlist, List.length_append]; rfl
      exact ⟨by omega, fun _ => .inr (by omega)⟩
  obtain ⟨hle, hnone⟩ := hlength
  cases call with
  | idle => trivial
  | unreachable => trivial
  | connected failures =>
    obtain ⟨hbefore, hblame⟩ := h
    refine ⟨by omega, fun hclient => ?_⟩
    rcases hnone hclient with hold | hmore
    · have := hblame hold
      omega
    · omega
  | finished failures result =>
    obtain ⟨hbefore, hblame⟩ := h
    refine ⟨by omega, fun hresult => ?_⟩
    have := hblame hresult
    omega

/-- What the machine records besides. -/
structure Inv (s : Slots) : Prop where
  accounted : Accounted s
  calls : ∀ i, Blamed s (s.calls i)
  severed : ∀ client, s.severed client ≠ none → client < s.slot.opened

theorem opened_of_effect {s s' : Slots} (heffect : Effect s s') : s.slot.opened ≤ s'.slot.opened := by
  cases heffect with
  | still hslot hlist => exact Nat.le_of_eq (by rw [hslot])
  | opened hnone hslot hlist =>
    rw [hslot]
    exact Nat.le_succ _
  | failed client hsome hslot hlist => exact Nat.le_of_eq (by rw [hslot])

/-- A new stage of one lookup. -/
theorem blamed_setCall {s s' : Slots} (h : ∀ i, Blamed s (s.calls i)) (heffect : Effect s s') (i : Nat) (call : SlotCall)
    (hcalls : s'.calls = Function.update s.calls i call) (hcall : Blamed s' call) (j : Nat) : Blamed s' (s'.calls j) := by
  rw [hcalls]
  by_cases hj : j = i
  · rw [hj, Function.update_self]
    exact hcall
  · rw [Function.update_of_ne hj]
    exact (h j).of_effect heffect

theorem sendQuery_noClient {slot : ClientSlot} {reply : Reply} (h : (slot.sendQuery reply).1 = .error .noClient) :
    slot.client = none := by
  by_contra hsome
  obtain ⟨client, hclient⟩ := Option.ne_none_iff_exists'.mp hsome
  rcases reply with column | _ | reason
  · rcases column with reason | secret <;> simp [ClientSlot.sendQuery, hclient, Except.mapError] at h
  · simp [ClientSlot.sendQuery, hclient] at h
  · simp [ClientSlot.sendQuery, hclient] at h

theorem Inv.step {s : Slots} (h : Inv s) (a : SlotAct) : Inv (s.step a) := by
  have heffect := step_effect s a
  refine ⟨h.accounted.of_effect heffect, ?_, ?_⟩
  · cases a with
    | connect i attempt =>
      rcases hcall : s.calls i with _ | failures | _ | ⟨failures, result⟩
      · rcases hconnect : s.slot.ensureConnected attempt with ⟨e | ⟨⟩, slot⟩
        · refine blamed_setCall h.calls heffect i .unreachable ?_ trivial
          simp only [Slots.step, hcall, hconnect, setCall]
        · refine blamed_setCall h.calls heffect i (.connected s.failed.length) ?_ ?_
          · simp only [Slots.step, hcall, hconnect, setCall]
          · have hslot : (s.step (.connect i attempt)).slot = slot ∧ (s.step (.connect i attempt)).failed = s.failed := by
              simp only [Slots.step, hcall, hconnect, setCall, and_self]
            refine ⟨Nat.le_of_eq (by rw [hslot.2]), fun hnone => ?_⟩
            rw [hslot.1] at hnone
            -- a lookup that is connected has left a client in the slot
            unfold ClientSlot.ensureConnected at hconnect
            rcases hclient : s.slot.client with _ | client
            · rcases attempt with reason | ⟨⟩ <;> simp only [hclient] at hconnect <;> cases hconnect
              cases hnone
            · simp only [hclient] at hconnect
              cases hconnect
              rw [hclient] at hnone
              cases hnone
      all_goals
        intro j
        have hsame : s.step (.connect i attempt) = s := by simp only [Slots.step, hcall]
        rw [hsame]
        exact h.calls j
    | query i reply =>
      rcases hcall : s.calls i with _ | failures | _ | ⟨failures, result⟩
      case connected =>
        have hconnected := h.calls i
        rw [hcall] at hconnected
        obtain ⟨hbefore, hblame⟩ := hconnected.of_effect heffect
        refine blamed_setCall h.calls heffect i (.finished failures (s.slot.sendQuery (s.delivered reply)).1) ?_
          ⟨hbefore, fun hnone => ?_⟩
        · simp only [Slots.step, hcall, setCall]
        · apply hblame
          have hclient := sendQuery_noClient hnone
          simp only [Slots.step, hcall, setCall, ClientSlot.sendQuery, hclient]
      all_goals
        intro j
        have hsame : s.step (.query i reply) = s := by simp only [Slots.step, hcall]
        rw [hsame]
        exact h.calls j
    | sever client reason =>
      intro j
      have hcalls : (s.step (.sever client reason)).calls = s.calls := by
        simp only [Slots.step]
        split <;> rfl
      rw [hcalls]
      exact (h.calls j).of_effect heffect
  · intro client hsevered
    refine Nat.lt_of_lt_of_le ?_ (opened_of_effect heffect)
    cases a with
    | connect i attempt =>
      apply h.severed
      intro hnone
      apply hsevered
      rw [← hnone]
      simp only [Slots.step]
      split
      · split <;> rfl
      · rfl
    | query i reply =>
      apply h.severed
      intro hnone
      apply hsevered
      rw [← hnone]
      simp only [Slots.step]
      split <;> rfl
    | sever c reason =>
      by_cases hopen : c < s.slot.opened
      · by_cases hc : client = c
        · rw [hc]
          exact hopen
        · apply h.severed
          simp only [Slots.step, if_pos hopen, Function.update_of_ne hc] at hsevered
          exact hsevered
      · apply h.severed
        simp only [Slots.step, if_neg hopen] at hsevered
        exact hsevered

theorem inv_run (as : List SlotAct) : Inv (run step start as) := by
  refine run_invariant (fun _ a h => h.step a) ⟨accounted_start, fun _ => trivial, ?_⟩ as
  intro client hsevered
  exact absurd rfl hsevered

/-- In every run a connection fails at most one query and is then out of use; as many were
    opened as have failed or are in the slot; and a lookup that finds no client was
    connected before the latest failure. -/
theorem slot_accounting (as : List SlotAct) :
    (run step start as).failed.Nodup ∧
    (run step start as).slot.opened = (run step start as).failed.length + (run step start as).slot.client.toList.length ∧
    (∀ client, (run step start as).slot.client = some client → client ∉ (run step start as).failed) ∧
    ∀ i failures, (run step start as).calls i = .finished failures (.error .noClient) →
      failures < (run step start as).failed.length := by
  obtain ⟨haccounted, hcalls, -⟩ := inv_run as
  refine ⟨haccounted.once, haccounted.opened, fun client hclient => (haccounted.current client hclient).2, ?_⟩
  intro i failures hcall
  have hblamed := hcalls i
  rw [hcall] at hblamed
  exact hblamed.2 rfl

/-! ## Recovery -/

/-- The slot has a client that works, or none. -/
def Sound (s : Slots) : Prop := ∀ client, s.slot.client = some client → s.severed client = none

/-- A lookup with nothing in between. -/
def alone (i : Nat) (reply : Reply) : List SlotAct := [.connect i (.ok ()), .query i reply]

/-- It finishes, and leaves a slot that is sound. -/
theorem alone_leaves {s : Slots} (h : Inv s) {i : Nat} (hidle : s.calls i = .idle) (reply : Reply) :
    Inv (run step s (alone i reply)) ∧ Sound (run step s (alone i reply)) ∧
      (∀ j, j ≠ i → (run step s (alone i reply)).calls j = s.calls j) ∧
      (Sound s → ∃ failures, (run step s (alone i reply)).calls i = .finished failures reply.result) := by
  refine ⟨run_invariant (fun _ a h => h.step a) h _, ?_⟩
  have hfresh : s.severed s.slot.opened = none := by
    by_contra hsevered
    exact absurd (h.severed _ hsevered) (Nat.lt_irrefl _)
  -- the connection that the query goes out on
  obtain ⟨client, slot, hconnect, hclient, hsound⟩ : ∃ client slot, s.slot.ensureConnected (.ok ()) = (.ok (), slot) ∧
      slot.client = some client ∧ (Sound s → s.severed client = none) := by
    rcases hslot : s.slot.client with _ | client
    · exact ⟨s.slot.opened, ⟨some s.slot.opened, s.slot.opened + 1⟩, by simp only [ClientSlot.ensureConnected, hslot], rfl,
        fun _ => hfresh⟩
    · exact ⟨client, s.slot, by simp only [ClientSlot.ensureConnected, hslot], hslot, fun hsound => hsound client hslot⟩
  simp only [alone, run_cons, run_nil, step, hidle, hconnect, setCall, Function.update_self, delivered, hclient,
    Option.bind_some]
  rcases hsevered : s.severed client with _ | reason
  · refine ⟨?_, fun j hj => ?_, fun _ => ?_⟩
    · intro c hc
      rcases reply with column | _ | reason
      all_goals
        simp only [ClientSlot.sendQuery, hclient, reduceCtorEq] at hc
      all_goals
        cases hc
        exact hsevered
    · rw [Function.update_of_ne hj, Function.update_of_ne hj]
    · refine ⟨s.failed.length, ?_⟩
      rcases reply with column | _ | reason <;> simp only [ClientSlot.sendQuery, hclient, Reply.result]
  · refine ⟨?_, fun j hj => ?_, fun h => ?_⟩
    · intro c hc
      simp only [ClientSlot.sendQuery, hclient, reduceCtorEq] at hc
    · rw [Function.update_of_ne hj, Function.update_of_ne hj]
    · rw [hsound h] at hsevered
      cases hsevered

/-- After any run, of two lookups on their own the second gets its answer. -/
theorem recovers (as : List SlotAct) {i j : Nat} (hij : i ≠ j) (hi : (run step start as).calls i = .idle)
    (hj : (run step start as).calls j = .idle) (reply reply' : Reply) :
    ∃ failures, (run step start (as ++ alone i reply ++ alone j reply')).calls j = .finished failures reply'.result := by
  rw [run_append, run_append]
  obtain ⟨hinv, hsound, hothers, -⟩ := alone_leaves (inv_run as) hi reply
  obtain ⟨-, -, -, hanswer⟩ := alone_leaves hinv ((hothers j hij.symm).trans hj) reply'
  exact hanswer hsound

end Slots

namespace Sample

/-- A lookup is over, and then the connection of its client breaks. -/
def severedClient : List SlotAct := [.connect 0 (.ok ()), .query 0 .noRow, .sever 0 "closed".toList]

end Sample

namespace Slots

theorem recovers_severedClient : ∃ failures,
    (run step start (Sample.severedClient ++ alone 1 .noRow ++ alone 2 (.row (.ok none)))).calls 2 =
      .finished failures (.ok none) :=
  recovers Sample.severedClient (by decide) rfl rfl .noRow (.row (.ok none))

/-- The first of the two finds the broken client. -/
example : (run step start (Sample.severedClient ++ alone 1 .noRow)).calls 1 =
    .finished 0 (.error (.database "closed".toList)) := rfl

end Slots

end Wirechaos
