import Mathlib.Data.List.TakeWhile
import ProvisionWatch.CommandLine.Run
import ProvisionWatch.Proofs.Json.RoundTrip

/-!
# What a command prints

A command prints each update on a line of its own, up to the terminal one.  Every
such line is a JSON text, and the value of the update reads back from it.  The
code that the command ends with tells whether the deployment failed.

Main results:

- Theorem `Update.read?_compact_encode`: the value of an update reads back from
  the line that it is printed on.
- Theorem `showUpdates_reads_back`: so do the values of all updates that are
  shown, in their order.
- Theorem `showUpdates_exitCode_eq_one_iff`: the code is one exactly if the
  terminal update tells a failure.
-/

namespace ProvisionWatch

open Json (Plain PlainMembers optionalMember)

/-! ## Updates as values -/

/-- A list of values of one kind is plain if each of them is. -/
theorem Json.Plain.list {α : Type} {depth : Nat} {encode : α → Json}
    (h : ∀ a, Plain depth (encode a)) (items : List α) :
    Plain (depth + 1) (.arr (items.map encode)) := by
  refine .arr fun item hitem => ?_
  obtain ⟨a, -, rfl⟩ := List.mem_map.mp hitem
  exact h a

theorem Condition.plain_encode (depth : Nat) (c : Condition) : Plain (depth + 1) c.encode :=
  PlainMembers.obj (.cons (.str _) (.cons (.str _) (.cons (.str _) (.cons (.str _) .nil))))
    (by decide)

theorem ObjectRef.plain_encode (depth : Nat) (o : ObjectRef) : Plain (depth + 1) o.encode :=
  PlainMembers.obj (.cons (.str _) (.cons (.str _) (.optional fun ns _ => .str ns))) (by decide)

theorem ClusterInfo.plain_encode (depth : Nat) (c : ClusterInfo) : Plain (depth + 1) c.encode :=
  PlainMembers.obj
    ((((PlainMembers.cons (.str _) (.cons (.str _) (.cons (.str _) .nil))).append
      (.optional fun s _ => .str s)).append (.optional fun s _ => .str s)).append
        (.optional fun s _ => .str s) |>.append (.optional fun t _ => .str t.text)) (by decide)

theorem Service.plain_encode (depth : Nat) (s : Service) : Plain (depth + 3) s.encode :=
  PlainMembers.obj
    ((PlainMembers.cons (.str _) (.cons (.str _) (.cons (.str _) (.cons (.str _) (.cons (.str _)
      (.cons (.str _) (.cons (.list (Condition.plain_encode depth) s.conditions) .nil))))))).append
        (.optional fun s _ => .str s)) (by decide)

theorem plain_encodePercent (depth : Nat) (n : UInt8) : Plain depth (encodePercent n) := by
  have hlt : n.toNat < 256 := n.toNat_lt
  refine .int ?_ ?_
  · rw [Json.leastWhole]
    omega
  · rw [Json.greatestWhole]
    omega

/-- The value of an update is plain, and objects lie in it five deep at most. -/
theorem Update.plain_encode (u : Update) : Plain 5 u.encode := by
  have hphase : PlainMembers 4 ["timestamp", "phase"]
      [("timestamp", u.timestamp.encode), ("phase", u.phase.encode)] :=
    .cons (.str _) (.cons (.str _) .nil)
  have hprogress : PlainMembers 4 ["progress"]
      (optionalMember "progress" encodePercent u.progress) :=
    .optional fun n _ => plain_encodePercent 4 n
  have htold : PlainMembers 4 ["message", "reason", "source", "severity"]
      [("message", .str u.message), ("reason", .str u.reason), ("source", u.source.encode),
        ("severity", u.severity.encode)] :=
    .cons (.str _) (.cons (.str _) (.cons (.str _) (.cons (.str _) .nil)))
  have hrelated : PlainMembers 4 ["relatedObject"]
      (optionalMember "relatedObject" ObjectRef.encode u.relatedObject) :=
    .optional fun o _ => o.plain_encode 3
  have hjudged : PlainMembers 4 ["conditions", "terminal"]
      [("conditions", .arr (u.conditions.map Condition.encode)), ("terminal", .bool u.terminal)] :=
    .cons (.list (Condition.plain_encode 2) _) (.cons (.bool _) .nil)
  have hcluster : PlainMembers 4 ["cluster"]
      (optionalMember "cluster" ClusterInfo.encode u.cluster) :=
    .optional fun c _ => c.plain_encode 3
  have hservices : PlainMembers 4 ["services"]
      [("services", .arr (u.services.map Service.encode))] :=
    .cons (.list (Service.plain_encode 0) _) .nil
  exact ((((((hphase.append hprogress).append htold).append hrelated).append hjudged).append
    hcluster).append hservices).obj (by decide)

/-- The value of an update reads back from the line that it is printed on. -/
@[simp]
theorem Update.read?_compact_encode (u : Update) : Json.read? u.encode.compact = some u.encode :=
  Json.read?_compact u.plain_encode (by decide)

namespace CommandLine

/-! ## Updates as they are shown -/

/-- The updates that are shown are those before the terminal one, and it. -/
theorem untilTerminal_eq (updates : List Update) :
    untilTerminal updates = updates.takeWhile (fun u => !u.terminal) ++
      (updates.find? fun u => u.terminal).toList := by
  induction updates with
  | nil => rfl
  | cons u rest ih => cases h : u.terminal <;> simp [untilTerminal, h, ih]

/-- The last update that is shown is the terminal one, if there is one. -/
@[simp]
theorem filter_getLast?_untilTerminal (updates : List Update) :
    (untilTerminal updates).getLast?.filter (fun u => u.terminal) =
      updates.find? fun u => u.terminal := by
  rw [untilTerminal_eq, List.getLast?_append]
  cases hfound : updates.find? fun u => u.terminal with
  | some u =>
      have hterminal : u.terminal = true := List.find?_some hfound
      simp [hterminal]
  | none =>
      have hnone : updates.takeWhile (fun u => !u.terminal) = updates :=
        List.takeWhile_eq_self_iff.mpr (by simpa using hfound)
      have hlast : ∀ u, updates.getLast? = some u → u.terminal = false := fun u hu => by
        simpa using List.find?_eq_none.mp hfound u (List.mem_of_getLast? hu)
      rw [hnone]
      simpa using hlast

/-- The values of all updates that are shown read back, in their order. -/
theorem showUpdates_reads_back (updates : List Update) :
    (showUpdates false updates).stdout.map Json.read? =
      (untilTerminal updates).map fun u => some u.encode := by
  have hlines : (showUpdates false updates).stdout =
      (untilTerminal updates).map fun u => u.encode.compact :=
    List.map_eq_flatMap.symm
  simp [hlines]

/-- A command that shows updates ends with one exactly if the terminal update tells a failure. -/
theorem showUpdates_exitCode_eq_one_iff (pretty : Bool) (updates : List Update) :
    (showUpdates pretty updates).exitCode = 1 ↔
      ∃ u, (updates.find? fun u => u.terminal) = some u ∧ u.phase = .failed := by
  simp only [showUpdates, filter_getLast?_untilTerminal]
  cases updates.find? fun u => u.terminal with
  | none => simp
  | some u =>
      by_cases hphase : u.phase = .failed
      · simp [exitCode, hphase]
      · simp [exitCode, hphase]

end CommandLine
end ProvisionWatch
