/-! Texts made of parts with a separator between them. -/

namespace FabricArp.Text

/-- The parts between separators; a text without one is a single part. -/
def split (separator : Char) : List Char → List (List Char)
  | [] => [[]]
  | head :: rest =>
      if head = separator then [] :: split separator rest
      else
        match split separator rest with
        | [] => [[head]]
        | part :: parts => (head :: part) :: parts

/-- The text before the first separator, and what follows it if there is one. -/
def cut (separator : Char) : List Char → List Char × Option (List Char)
  | [] => ([], none)
  | head :: rest =>
      if head = separator then ([], some rest)
      else (head :: (cut separator rest).1, (cut separator rest).2)

def join (separator : Char) : List (List Char) → List Char
  | [] => []
  | [part] => part
  | part :: parts => part ++ separator :: join separator parts

theorem split_ne_nil (separator : Char) (text : List Char) : split separator text ≠ [] := by
  cases text with
  | nil => simp [split]
  | cons head rest =>
      unfold split
      split
      · simp
      · split <;> simp

theorem split_of_not_mem {separator : Char} {text : List Char} (h : separator ∉ text) :
    split separator text = [text] := by
  induction text with
  | nil => rfl
  | cons head rest ih =>
      rw [List.mem_cons, not_or] at h
      rw [split, if_neg (Ne.symm h.1), ih h.2]

theorem split_append {separator : Char} {part : List Char} (h : separator ∉ part)
    (rest : List Char) :
    split separator (part ++ separator :: rest) = part :: split separator rest := by
  induction part with
  | nil => simp [split]
  | cons head part ih =>
      rw [List.mem_cons, not_or] at h
      rw [List.cons_append, split, if_neg (Ne.symm h.1), ih h.2]

theorem cut_append {separator : Char} {part : List Char} (h : separator ∉ part)
    (rest : List Char) :
    cut separator (part ++ separator :: rest) = (part, some rest) := by
  induction part with
  | nil => simp [cut]
  | cons head part ih =>
      rw [List.mem_cons, not_or] at h
      rw [List.cons_append, cut, if_neg (Ne.symm h.1), ih h.2]

theorem split_join {separator : Char} {parts : List (List Char)} (hne : parts ≠ [])
    (h : ∀ part ∈ parts, separator ∉ part) :
    split separator (join separator parts) = parts := by
  induction parts with
  | nil => exact absurd rfl hne
  | cons part rest ih =>
      cases rest with
      | nil => exact split_of_not_mem (h part List.mem_cons_self)
      | cons next rest =>
          rw [join, split_append (h part List.mem_cons_self),
            ih (by simp) fun other hother => h other (List.mem_cons_of_mem _ hother)]
          simp

end FabricArp.Text
