/-!
# Sorted lists

Finite sets and maps as lists in strictly ascending order of their keys.  Each
set or map has one such list, so two of them are equal exactly when they hold
the same, and taking out what was put in gives back the list it was put into.
-/

namespace PluginAudit

/-- Insert into an ascending list, unless it is there already. -/
def SortedList.insert {α : Type} (less : α → α → Bool) (x : α) : List α → List α
  | [] => [x]
  | y :: ys =>
      if less x y then x :: y :: ys
      else if less y x then y :: SortedList.insert less x ys
      else y :: ys

namespace Assoc

variable {κ α : Type}

def get? [BEq κ] (key : κ) : List (κ × α) → Option α
  | [] => none
  | (k, v) :: rest => if k == key then some v else get? key rest

def contains [BEq κ] (key : κ) (entries : List (κ × α)) : Bool := (get? key entries).isSome

/-- Store a value under a key, in place of the one stored before. -/
def put (less : κ → κ → Bool) (key : κ) (value : α) : List (κ × α) → List (κ × α)
  | [] => [(key, value)]
  | (k, v) :: rest =>
      if less key k then (key, value) :: (k, v) :: rest
      else if less k key then (k, v) :: put less key value rest
      else (key, value) :: rest

def erase [BEq κ] (key : κ) : List (κ × α) → List (κ × α)
  | [] => []
  | (k, v) :: rest => if k == key then rest else (k, v) :: erase key rest

/-- Change the value under a key, starting from `initial` if there is none. -/
def update (less : κ → κ → Bool) (key : κ) (initial : α) (change : α → α) :
    List (κ × α) → List (κ × α)
  | [] => [(key, change initial)]
  | (k, v) :: rest =>
      if less key k then (key, change initial) :: (k, v) :: rest
      else if less k key then (k, v) :: update less key initial change rest
      else (k, change v) :: rest

def keys (entries : List (κ × α)) : List κ := entries.map Prod.fst

end Assoc

def textLess (a b : String) : Bool := decide (a < b)

def natLess (a b : Nat) : Bool := decide (a < b)

end PluginAudit
