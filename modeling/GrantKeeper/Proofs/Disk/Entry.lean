import Mathlib.Algebra.Group.Nat.Defs
import GrantKeeper.Proofs.Disk.Replacement

/-! Names that can stand in a directory, and paths to them that can be followed. -/
namespace GrantKeeper

namespace Text

def room : List Char → Nat
  | [] => 0
  | c :: cs => c.utf8Size + room cs

theorem roomAppend (cs ds : List Char) : room (cs ++ ds) = room cs + room ds := by
  induction cs with
  | nil => simp [room]
  | cons c cs ih => simp [room,ih,Nat.add_assoc]

theorem sizeRoom (s : String) : s.utf8ByteSize = room s.toList := by
  have sizes : ∀ cs : List Char, (String.ofList cs).utf8ByteSize = room cs := by
    intro cs
    induction cs with
    | nil => rfl
    | cons c cs ih =>
      have single : (String.singleton c).utf8ByteSize = c.utf8Size := String.utf8ByteSize_singleton
      have front : String.ofList (c :: cs) = String.singleton c ++ String.ofList cs := by simp
      rw [front,String.utf8ByteSize_append,single,ih]
      rfl
  rw [← sizes,String.ofList_toList]

theorem roomDigits {n k : Nat} (small : n < 10 ^ (k + 1)) : room (digits n) ≤ k + 1 := by
  have single : ∀ d < 10, room [digitChar d] = 1 := by decide
  induction n using digits.induct generalizing k with
  | case1 n least =>
    rw [digits,if_pos least,single n least]
    omega
  | case2 n large ih =>
    cases k with
    | zero => omega
    | succ k =>
      have front := ih (k := k) (by rw [Nat.pow_succ] at small; omega)
      rw [digits,if_neg large,roomAppend,single _ (Nat.mod_lt n (by decide))]
      omega

end Text

namespace Disk

namespace Path

def Short (p : Path) : Prop := p.text.utf8ByteSize ≤ Tree.longestPath

instance (p : Path) : Decidable p.Short :=
  inferInstanceAs (Decidable (p.text.utf8ByteSize ≤ Tree.longestPath))

def Clear (p : Path) : Prop := '\x00' ∉ p.text.toList

structure IsEntry (name : String) : Prop extends IsName name where
  clear : '\x00' ∉ name.toList
  short : name.utf8ByteSize ≤ Tree.longestName

theorem clearJoin {p : Path} (clear : p.Clear) {name : String} (entry : IsEntry name) :
    (p.join ⟨name⟩).Clear := by
  unfold Clear at clear ⊢
  unfold join
  split
  · exact entry.clear
  · split <;> simp [clear,entry.clear]

theorem clearOfParts {p : Path} (clear : p.Clear) (absolute : Bool) : (ofParts absolute p.parts).Clear := by
  have names : ∀ name ∈ p.parts, '\x00' ∉ name.toList := by
    intro name member inner
    obtain ⟨piece,kept,rfl⟩ := List.mem_map.mp member
    rw [String.toList_ofList] at inner
    exact clear (Text.ofPiece (List.mem_filter.mp kept).1 inner).1
  have joined : ∀ names : List String, (∀ name ∈ names, '\x00' ∉ name.toList) →
      '\x00' ∉ (String.intercalate "/" names).toList := by
    intro names
    induction names with
    | nil => simp
    | cons name names ih =>
      intro clear
      have rest := ih fun other member => clear other (List.mem_cons_of_mem name member)
      have first := clear name List.mem_cons_self
      cases names with
      | nil => simpa [String.intercalate_singleton] using first
      | cons next names => simpa [String.intercalate_cons_cons,first] using rest
  have inner := joined p.parts names
  unfold Clear ofParts
  cases absolute <;> simpa using inner

end Path

open Disk.Path (IsEntry)

theorem temporaryEntry {name : String} (entry : IsEntry name) {process n : Nat}
    (short : name.utf8ByteSize + 27 ≤ Tree.longestName) (small : process < temporaryLimit)
    (counted : n < temporaryLimit) : IsEntry (temporaryName name process n) := by
  have few : ∀ m < temporaryLimit, Text.room (Text.digits m) ≤ 10 := by
    intro m below
    refine Text.roomDigits (k := 9) ?_
    unfold temporaryLimit at below
    omega
  refine ⟨temporaryNamed entry.whole process n,temporaryLacks entry.clear (by decide) (by decide) process n,?_⟩
  have first := few process small
  have second := few n counted
  have dot : ∀ cs, Text.room ('.' :: cs) = 1 + Text.room cs := fun cs => Text.roomAppend ['.'] cs
  have ending : Text.room ['t','m','p'] = 3 := rfl
  rw [Text.sizeRoom] at short
  rw [Text.sizeRoom,temporaryChars]
  simp only [Text.roomAppend,dot,ending]
  omega

theorem temporaryRoom (name : String) (process n : Nat) :
    name.utf8ByteSize + 9 ≤ (temporaryName name process n).utf8ByteSize := by
  have some : ∀ m, 1 ≤ Text.room (Text.digits m) := by
    intro m
    cases digits : Text.digits m with
    | nil => exact absurd digits (Text.digitsNonempty m)
    | cons c cs =>
      have size := Char.utf8Size_pos c
      rw [Text.room]
      omega
  have first := some process
  have second := some n
  have dot : ∀ cs, Text.room ('.' :: cs) = 1 + Text.room cs := fun cs => Text.roomAppend ['.'] cs
  have ending : Text.room ['t','m','p'] = 3 := rfl
  rw [Text.sizeRoom,Text.sizeRoom,temporaryChars]
  simp only [List.cons_append,List.append_assoc,Text.roomAppend,dot,ending]
  omega

namespace Tree
variable {t : Tree} {p : Path} {place goal : Place}

theorem resolveShort (there : t.resolve p = .ok place) : p.Short := by
  unfold Tree.resolve at there
  split at there
  · cases there
  · split at there
    · cases there
    · split at there
      · cases there
      · rename_i short
        exact Nat.not_lt.mp short

theorem resolveLong (long : ¬ p.Short) : ∃ fault, t.resolve p = .error fault ∧ fault ≠ .notFound := by
  have filled : p.text.isEmpty = false := by
    cases empty : p.text.isEmpty with
    | false => rfl
    | true =>
      rw [Path.Short,show p.text = "" by simpa using empty] at long
      exact absurd (by decide) long
  unfold Tree.resolve
  rw [filled,if_neg Bool.false_ne_true,if_pos (Nat.not_le.mp long)]
  split
  · exact ⟨_,rfl,nofun⟩
  · exact ⟨_,rfl,nofun⟩

theorem findLong (long : ¬ p.Short) : ∃ fault, t.find p = .error fault ∧ fault ≠ .notFound := by
  obtain ⟨fault,fails,other⟩ := t.resolveLong long
  exact ⟨fault,by rw [find,fails],other⟩

theorem followBound {names : List String} (there : t.follow place names = .ok goal) {name : String}
    (member : name ∈ names) (down : name ≠ "..") : name.utf8ByteSize ≤ longestName := by
  induction names generalizing place with
  | nil => cases member
  | cons first names ih =>
    unfold follow at there
    split at there
    · cases there
    · cases there
    · split at there
      · rename_i up
        rcases List.mem_cons.mp member with rfl | later
        · exact absurd up down
        · exact ih there later
      · split at there
        · cases there
        · rename_i short
          rcases List.mem_cons.mp member with rfl | later
          · exact Nat.not_lt.mp short
          · exact ih there later

theorem resolveBound (there : t.resolve p = .ok place) {name : String} (member : name ∈ p.parts)
    (down : name ≠ "..") : name.utf8ByteSize ≤ longestName := by
  unfold resolve at there
  split at there
  · cases there
  · split at there
    · cases there
    · split at there
      · cases there
      · exact followBound there member down

end Tree

end Disk

end GrantKeeper
