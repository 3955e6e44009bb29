/-
  Wirechaos.Backend.MechanismProofs — the mechanism list of `AuthenticationSASL` (see
  `Wirechaos.Backend.Sasl`).

  The list ends at its first empty name: `listed` are the names before it, `unlisted` is
  whatever `parse_sasl_mechanisms` splits off behind them. The parser takes both
  (`parseSaslMechanisms_eq`), so it is right exactly when nothing behind the list is the
  name of a mechanism (`mechanisms_listed_iff`).
-/

import Wirechaos.Backend.Sasl

namespace Wirechaos

open Text

namespace Mechanisms

/-- The names before the first empty one, each with its NUL; what has no NUL behind it is
    no name. -/
def listed (body : Bytes) : List Bytes := (body.splitOn 0).dropLast.takeWhile (· ≠ [])

def unlisted (body : Bytes) : List Bytes := (body.splitOn 0).drop (listed body).length

/-- The list as a backend writes it: each name and a NUL, and one more NUL. -/
def encode (names : List Bytes) : Bytes := (names.flatMap fun name => name ++ [0]) ++ [0]

theorem listed_append_unlisted (body : Bytes) : listed body ++ unlisted body = body.splitOn 0 := by
  have hprefix : listed body <+: body.splitOn 0 := (List.takeWhile_prefix _).trans (List.dropLast_prefix _)
  obtain ⟨rest, hrest⟩ := hprefix
  rw [unlisted, ← hrest, List.drop_left]

theorem parseSaslMechanisms_eq (body : Bytes) : parseSaslMechanisms body =
    (listed body).filterMap SaslMechanism.ofName ++ (unlisted body).filterMap SaslMechanism.ofName := by
  rw [parseSaslMechanisms, ← List.filterMap_append, listed_append_unlisted]

/-- The split of a list goes through its names one by one. -/
theorem splitOn_encode {names : List Bytes} (h : ∀ name ∈ names, name ≠ [] ∧ (0 : UInt8) ∉ name) (trailing : Bytes) :
    (encode names ++ trailing).splitOn 0 = names ++ [] :: trailing.splitOn 0 := by
  induction names with
  | nil =>
    show (([] : Bytes) ++ 0 :: trailing).splitOn 0 = _
    rw [List.splitOn_append_cons_self_of_not_mem (List.not_mem_nil)]
    rfl
  | cons name names ih =>
    have hcons : encode (name :: names) ++ trailing = name ++ 0 :: (encode names ++ trailing) := by simp [encode]
    rw [hcons, List.splitOn_append_cons_self_of_not_mem (h name (by simp)).2,
      ih fun name' hname => h name' (List.mem_cons_of_mem _ hname), List.cons_append]

theorem listed_encode {names : List Bytes} (h : ∀ name ∈ names, name ≠ [] ∧ (0 : UInt8) ∉ name) (trailing : Bytes) :
    listed (encode names ++ trailing) = names := by
  have hbehind : trailing.splitOn 0 ≠ [] := List.splitOn_ne_nil 0 trailing
  have hinside : ∀ name ∈ names, decide (name ≠ []) = true := fun name hname => decide_eq_true (h name hname).1
  rw [listed, splitOn_encode h, List.dropLast_append_of_ne_nil (List.cons_ne_nil _ _),
    List.dropLast_cons_of_ne_nil hbehind, List.takeWhile_append_of_pos hinside,
    List.takeWhile_cons_of_neg (by simp), List.append_nil]

theorem unlisted_encode {names : List Bytes} (h : ∀ name ∈ names, name ≠ [] ∧ (0 : UInt8) ∉ name) (trailing : Bytes) :
    unlisted (encode names ++ trailing) = [] :: trailing.splitOn 0 := by
  rw [unlisted, listed_encode h, splitOn_encode h, List.drop_left]

theorem eq_listed_iff (body : Bytes) : parseSaslMechanisms body = (listed body).filterMap SaslMechanism.ofName ↔
    ∀ name ∈ unlisted body, SaslMechanism.ofName name = none := by
  rw [parseSaslMechanisms_eq, List.append_right_eq_self, List.filterMap_eq_nil_iff]

/-- The parser gives the known names of the list exactly when none is behind its end; and
    so for any names, written as a list, with any bytes behind them. -/
theorem mechanisms_listed_iff (body : Bytes) :
    (parseSaslMechanisms body = (listed body).filterMap SaslMechanism.ofName ↔
      ∀ name ∈ unlisted body, SaslMechanism.ofName name = none) ∧
    ∀ (names : List Bytes) (trailing : Bytes), (∀ name ∈ names, name ≠ [] ∧ (0 : UInt8) ∉ name) →
      body = encode names ++ trailing →
      (parseSaslMechanisms body = names.filterMap SaslMechanism.ofName ↔
        ∀ name ∈ trailing.splitOn 0, SaslMechanism.ofName name = none) := by
  refine ⟨eq_listed_iff body, fun names trailing h hbody => ?_⟩
  have hlist := eq_listed_iff (encode names ++ trailing)
  rw [listed_encode h, unlisted_encode h, List.forall_mem_cons] at hlist
  rw [hbody, hlist]
  exact and_iff_right (by decide)

/-- A name behind the end of the list is offered too. -/
theorem a_name_behind_the_list_is_offered :
    parseSaslMechanisms (encode [asBytes "SCRAM-SHA-256"] ++ asBytes "SCRAM-SHA-256-PLUS" ++ [0]) ≠
      (listed (encode [asBytes "SCRAM-SHA-256"] ++ asBytes "SCRAM-SHA-256-PLUS" ++ [0])).filterMap SaslMechanism.ofName := by
  decide

end Mechanisms

end Wirechaos
