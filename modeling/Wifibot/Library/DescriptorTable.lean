import Mathlib.Data.List.Basic

set_option relaxedAutoImplicit false
set_option autoImplicit false

/-!
# Descriptor tables

A process names what it has opened by numbers, and opening something takes the lowest number that
is free. A number is reused after it was closed, so a number that is kept too long may come to name
something else. Each open entry carries an owner, which says what it was opened for.

## Main definitions

* `DescriptorTable` — the entries by their numbers.
* `DescriptorTable.lowest`, `DescriptorTable.install`, `DescriptorTable.close` — the lowest free
  number, opening at it, and closing.

## Main results

* `DescriptorTable.entry_install_lowest` — what is opened has its owner.
* `DescriptorTable.entry_install_of_open`, `DescriptorTable.entry_close_of_ne` — what is open stays
  as it is.
-/

/-- The open descriptors of a process by their numbers, each with its owner. -/
abbrev DescriptorTable (α : Type*) := List (Option α)

namespace DescriptorTable

variable {α : Type*}

/-- The owner of a descriptor, `none` if it is not open. -/
def entry (t : DescriptorTable α) (n : ℕ) : Option α := t.getD n none

/-- The lowest free number. -/
def lowest : DescriptorTable α → ℕ
  | [] => 0
  | none :: _ => 0
  | some _ :: t => lowest t + 1

/-- The lowest free number is opened for an owner. -/
def install : DescriptorTable α → α → DescriptorTable α
  | [], a => [some a]
  | none :: t, a => some a :: t
  | some b :: t, a => some b :: install t a

/-- A number is closed; closing what is not open does nothing. -/
def close (t : DescriptorTable α) (n : ℕ) : DescriptorTable α := t.set n none

/-- The lowest free number is free. -/
@[simp] lemma entry_lowest (t : DescriptorTable α) : t.entry t.lowest = none := by
  fun_induction lowest t with
  | case1 => rfl
  | case2 => rfl
  | case3 _ t ih => exact ih

/-- What is opened has its owner. -/
@[simp] lemma entry_install_lowest (t : DescriptorTable α) (a : α) :
    (t.install a).entry t.lowest = some a := by
  fun_induction install t a with
  | case1 => rfl
  | case2 => rfl
  | case3 _ _ _ ih => exact ih

/-- Opening changes no other number. -/
lemma entry_install_of_ne {t : DescriptorTable α} {n : ℕ} (h : n ≠ t.lowest) (a : α) :
    (t.install a).entry n = t.entry n := by
  fun_induction install t a generalizing n with
  | case1 =>
    cases n with
    | zero => exact absurd rfl h
    | succ n => rfl
  | case2 =>
    cases n with
    | zero => exact absurd rfl h
    | succ n => rfl
  | case3 _ b t ih =>
    cases n with
    | zero => rfl
    | succ n => exact ih fun hn => h (congrArg Nat.succ hn)

/-- **Opening leaves what is open as it is.** -/
lemma entry_install_of_open {t : DescriptorTable α} {n : ℕ} {b : α} (h : t.entry n = some b)
    (a : α) : (t.install a).entry n = some b := by
  rw [entry_install_of_ne _ a, h]
  rintro rfl
  rw [entry_lowest] at h
  exact Option.some_ne_none b h.symm

/-- **Closing leaves every other number as it is.** -/
lemma entry_close_of_ne {t : DescriptorTable α} {m n : ℕ} (h : m ≠ n) :
    (t.close m).entry n = t.entry n := by
  rw [entry, close, List.getD_eq_getElem?_getD, List.getElem?_set_ne h,
    ← List.getD_eq_getElem?_getD, entry]

/-- Numbers with different owners differ. -/
lemma ne_of_entry {t : DescriptorTable α} {m n : ℕ} {a b : α} (hm : t.entry m = some a)
    (hn : t.entry n = some b) (hab : a ≠ b) : m ≠ n := by
  rintro rfl
  exact hab (Option.some.inj (hm.symm.trans hn))

end DescriptorTable
