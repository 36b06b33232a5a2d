/-!
# Entries

The entries of a list are found and changed by name, and names may repeat: the first entry of a name
counts. The last entry, which was added most recently, can be changed without its name.
-/
namespace Plant

/-- The list with its first element that satisfies `p` changed by `f`; nothing if there is none, or
if `f` refuses it. -/
def updateFirst? {α : Type} (p : α → Bool) (f : α → Option α) : List α → Option (List α)
  | [] => none
  | a :: as => if p a then (f a).map (· :: as) else (updateFirst? p f as).map (a :: ·)

/-- The list with its last element changed by `f`; nothing if it is empty, or if `f` refuses the
element. -/
def updateLast? {α : Type} (f : α → Option α) : List α → Option (List α)
  | [] => none
  | [a] => (f a).map ([·])
  | a :: b :: as => (updateLast? f (b :: as)).map (a :: ·)

/-- Which entry of a list is meant. -/
inductive Entry where
  /-- The first one of a name. -/
  | named (name : String)
  | last
deriving DecidableEq, Repr

/-- The list with an entry changed by `f`; nothing if there is no such entry, or if `f` refuses
it. -/
def Entry.update? {α : Type} (name : α → String) (f : α → Option α) (as : List α) :
    Entry → Option (List α)
  | named n => updateFirst? (name · == n) f as
  | last => updateLast? f as

end Plant
