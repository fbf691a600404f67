import Declare.Check.Outcome
import Declare.Log.Basic

/-!
# Support

A constraint is supported by a log if it is satisfied on a large enough share of the traces.
Unreadable traces count as traces on which it is not. The scan of a log stops as soon as its result
is decided.

A set of activities is frequent if they occur together in a large enough share of the readable
traces. Frequent sets are found level by level: a set can only be frequent if all its subsets are,
so sets of one more activity are joined from frequent ones that differ in their last activity, and
the support of a joined set is counted only if all its subsets are frequent.
-/

namespace Declare

/-- Whether a constraint is satisfied on a trace. -/
def Compiled.isSatisfied (c : Compiled) (vacuity : Bool) (t : Trace) : Bool :=
  (c.checkTrace t vacuity).verdict = .satisfied

/-- Whether `k` of `total` traces are enough. -/
def reaches (minSupport : Float) (total k : Nat) : Bool :=
  minSupport ≤ share k total

/-- Whether enough traces satisfy `p`, after `seen` traces of which `found` do. The scan stops when
enough have been found, and when those left over cannot be enough. -/
def scanSupport {α : Type} (p : α → Bool) (minSupport : Float) (total found seen : Nat) :
    List α → Bool
  | [] => reaches minSupport total found
  | t :: ts =>
    let found := if p t then found + 1 else found
    if reaches minSupport total found then true
    else if !reaches minSupport total (found + total - (seen + 1)) then false
    else scanSupport p minSupport total found (seen + 1) ts

/-- Whether a constraint is satisfied on a share of at least `minSupport` of the traces. A log
without traces supports nothing. -/
def Compiled.isSupported (c : Compiled) (log : Log) (vacuity : Bool) (minSupport : Float) : Bool :=
  log.size != 0 && scanSupport (c.isSatisfied vacuity) minSupport log.size 0 0 log.readable

/-- Activities and the share of the traces in which all of them occur. -/
structure Itemset where
  items : List String
  support : Float

namespace Itemset

/-- The share of traces in which all the activities occur, of at least one trace. -/
def supportOf (traces : List Trace) (items : List String) : Float :=
  share (traces.countP fun t => items.all t.occurs) traces.length

/-- The set with its support, if that reaches the threshold. -/
def frequent? (traces : List Trace) (minSupport : Float) (items : List String) : Option Itemset :=
  let support := supportOf traces items
  if minSupport ≤ support then some ⟨items, support⟩ else none

/-- The union of two sets that differ in their last activity only. -/
def join? (a b : List String) : Option (List String) :=
  if a.dropLast = b.dropLast then b.getLast?.map fun last => a ++ [last] else none

/-- The joins of each set with the sets after it. -/
def joins : List (List String) → List (List String)
  | [] => []
  | a :: rest => rest.filterMap (join? a) ++ joins rest

/-- The sets with one activity fewer. -/
def subsets (items : List String) : List (List String) :=
  (List.range items.length).map items.eraseIdx

/-- The frequent sets with one activity more than those of a level. -/
def nextLevel (traces : List Trace) (minSupport : Float) (level : List Itemset) : List Itemset :=
  let known := level.map (·.items)
  ((joins known).filter fun items => (subsets items).all (· ∈ known)).filterMap
    (frequent? traces minSupport)

/-- The sets of a level and of at most `more` levels above it. -/
def levels (traces : List Trace) (minSupport : Float) (level : List Itemset) :
    (more : Nat) → List Itemset
  | 0 => level
  | more + 1 =>
    if level.isEmpty then []
    else level ++ levels traces minSupport (nextLevel traces minSupport level) more

/-- The frequent sets of one to `maxSize` activities of a log, by size and then in alphabetical
order. -/
def frequent (log : Log) (minSupport : Float) (maxSize : Nat) : List Itemset :=
  let traces := log.readable
  match maxSize with
  | 0 => []
  | more + 1 =>
    if traces.isEmpty then []
    else
      let singletons := log.activities.map ([·])
      levels traces minSupport (singletons.filterMap (frequent? traces minSupport)) more

end Itemset

end Declare
