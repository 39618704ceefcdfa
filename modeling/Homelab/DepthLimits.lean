/-!
# How deep documents may be

A function that goes into the parts of a document calls itself for each part, and the interpreter
that runs the program lets only so many calls stand inside one another.  Some of them are open
already when a document is read or walked, so how deep it may be is not one number: it depends on
what is done with it, and from where.  The limits are parameters of the program, and what is
proved of it holds for all of them.

All that is asked of the limits is room for the inventories that can be written.  These have at
most 260 levels, because what writes them has a limit of its own, which does not depend on the
interpreter.
-/

namespace Homelab

/-- How deep documents may be for what is done with them. -/
class DepthLimits where
  /-- How many lists and mappings stand inside one another in a JSON text that is read. -/
  reading : Nat
  /-- How many levels a document has that is walked. -/
  walking : Nat
  /-- How many collections stand inside one another in a text in markup that is read. -/
  composing : Nat
  /-- How far the nodes of such a text are followed through one another. -/
  following : Nat
  /-- How many collections stand inside one another in a document that is shown. -/
  showing : Nat
  readable : 260 ≤ reading
  walkable : 260 < walking

namespace DepthLimits

theorem lt_reading [DepthLimits]
    {n : Nat}
    (h : n < 260) :
    n < reading :=
  Nat.lt_of_lt_of_le h readable

theorem sub_add_reading [DepthLimits]
    {n : Nat}
    (h : n < 260) :
    reading - n + n = reading :=
  Nat.sub_add_cancel (Nat.le_of_lt (lt_reading h))

theorem exists_add_eq_reading [DepthLimits]
    {n : Nat}
    (h : n < 260) :
    ∃ depth, depth + n = reading :=
  ⟨reading - n, sub_add_reading h⟩

theorem le_walking [DepthLimits]
    {n : Nat}
    (h : n ≤ 260) :
    n ≤ walking :=
  Nat.le_of_lt (Nat.lt_of_le_of_lt h walkable)

/-- The limits where only a few calls are open when a document is read or walked. -/
instance usual : DepthLimits where
  reading := 988
  walking := 490
  composing := 490
  following := 980
  showing := 980
  readable := by decide
  walkable := by decide

end DepthLimits
end Homelab
