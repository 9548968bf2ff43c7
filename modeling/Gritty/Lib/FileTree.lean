import Mathlib.Logic.Function.Basic
import Mathlib.Data.List.Infix

/-! A tree of directories and files, and the calls of an operating system that change it. -/

namespace Gritty

universe u v

/-- Files and directories by their paths below a root. Whatever there is lies in a directory. -/
structure FileTree (Name : Type u) (File : Type v) where
  files : List Name → Option File
  dirs : List Name → Bool
  root : dirs [] = true
  apart : ∀ path, dirs path = true → files path = none
  parents : ∀ path name, (dirs (path ++ [name]) = true ∨ (files (path ++ [name])).isSome) →
    dirs path = true

namespace FileTree

variable {Name : Type u} {File : Type v}

/-- The root alone. -/
def empty : FileTree Name File where
  files _ := none
  dirs path := path.isEmpty
  root := rfl
  apart _ _ := rfl
  parents path name there := by simp at there

variable [DecidableEq Name]

/-- Makes a directory and all above it that are missing, unless a file is in the way. -/
def createDirAll (tree : FileTree Name File) (dir : List Name) : Option (FileTree Name File) :=
  if free : ∀ path ∈ dir.inits, tree.files path = none then
    some {
      files := tree.files
      dirs := fun path => tree.dirs path || path.isPrefixOf dir
      root := by simp
      apart := fun path there => by
        rw [Bool.or_eq_true, List.isPrefixOf_iff_prefix] at there
        rcases there with old | made
        · exact tree.apart path old
        · exact free path ((List.mem_inits path dir).mpr made)
      parents := fun path name there => by
        rw [Bool.or_eq_true, List.isPrefixOf_iff_prefix] at *
        rcases there with (old | made) | file
        · exact Or.inl (tree.parents path name (Or.inl old))
        · exact Or.inr ((List.prefix_append path [name]).trans made)
        · exact Or.inl (tree.parents path name (Or.inr file)) }
  else none

/-- A file may be put in a directory that is there, where no directory is. -/
def Placeable (tree : FileTree Name File) (dir : List Name) (name : Name) : Prop :=
  tree.dirs dir = true ∧ tree.dirs (dir ++ [name]) = false

instance (tree : FileTree Name File) (dir : List Name) (name : Name) :
    Decidable (tree.Placeable dir name) :=
  inferInstanceAs (Decidable (_ ∧ _))

/-- Creates a file, or replaces what is in it. -/
def write (tree : FileTree Name File) (dir : List Name) (name : Name) (file : File) :
    Option (FileTree Name File) :=
  if placeable : tree.Placeable dir name then
    some {
      files := Function.update tree.files (dir ++ [name]) (some file)
      dirs := tree.dirs
      root := tree.root
      apart := fun path there => by
        have other : path ≠ dir ++ [name] := fun same => by simp [same, placeable.2] at there
        rw [Function.update_of_ne other]
        exact tree.apart path there
      parents := fun path other there => by
        by_cases same : path ++ [other] = dir ++ [name]
        · obtain ⟨rfl, _⟩ := List.append_inj' same rfl
          exact placeable.1
        · rw [Function.update_of_ne same] at there
          exact tree.parents path other there }
  else none

/-- Removes a file. -/
def remove (tree : FileTree Name File) (path : List Name) : FileTree Name File where
  files := Function.update tree.files path none
  dirs := tree.dirs
  root := tree.root
  apart other there := by
    by_cases same : other = path
    · rw [same, Function.update_self]
    · rw [Function.update_of_ne same]
      exact tree.apart other there
  parents other name there := by
    refine tree.parents other name (there.imp id fun file => ?_)
    by_cases same : other ++ [name] = path
    · rw [same, Function.update_self] at file
      cases file
    · rwa [Function.update_of_ne same] at file

/-- Moves a file onto another, or to where none is. -/
def rename (tree : FileTree Name File) (source dir : List Name) (name : Name) :
    Option (FileTree Name File) :=
  match tree.files source with
  | some file => (tree.remove source).write dir name file
  | none => none

section Effects

variable {tree next : FileTree Name File} {source dir path : List Name} {name : Name} {file : File}

/-- Making directories touches no file. -/
theorem createDirAll_files (made : tree.createDirAll dir = some next) : next.files = tree.files := by
  unfold createDirAll at made
  split at made
  · cases made
    rfl
  · cases made

/-- Only the file that is written changes. -/
theorem write_files (written : tree.write dir name file = some next) :
    next.files = Function.update tree.files (dir ++ [name]) (some file) := by
  unfold write at written
  split at written
  · cases written
    rfl
  · cases written

/-- Only the file that is removed is gone. -/
@[simp] theorem remove_files : (tree.remove path).files = Function.update tree.files path none := rfl

/-- A file that is moved is at its new path, and not at the old one. -/
theorem rename_files (moved : tree.rename source dir name = some next) :
    ∃ file, tree.files source = some file ∧ next.files =
      Function.update (Function.update tree.files source none) (dir ++ [name]) (some file) := by
  unfold rename at moved
  cases found : tree.files source with
  | none => simp [found] at moved
  | some file =>
    rw [found] at moved
    exact ⟨file, rfl, write_files moved⟩

end Effects

end FileTree

end Gritty
