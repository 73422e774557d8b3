import TapeStudio.Text.Basic

/-! A settings document: named sections of options, and a section of defaults for all of them. -/
namespace TapeStudio

/-- Options in the order in which they were first set. -/
abbrev OptionList := List (Text × Text)

namespace OptionList

/-- A known option keeps its place, a new one comes last. -/
def set (name value : Text) : OptionList → OptionList
  | [] => [(name, value)]
  | (other, old) :: rest =>
    if other = name then (name, value) :: rest else (other, old) :: set name value rest

theorem lookup_set (name value option : Text) (options : OptionList) :
    (set name value options).lookup option =
      if option = name then some value else options.lookup option := by
  by_cases h : option = name
  · subst h
    fun_induction set option value options with
    | case1 => simp
    | case2 => simp
    | case3 other old rest hne ih => simp [List.lookup_cons, beq_false_of_ne (Ne.symm hne), ih]
  · fun_induction set name value options with
    | case1 => simp [List.lookup_cons, beq_false_of_ne h, h]
    | case2 => simp [List.lookup_cons, beq_false_of_ne h, h]
    | case3 other old rest hne ih => simp [List.lookup_cons, ih, h]

end OptionList

structure Section where
  name : Text
  options : OptionList
  deriving DecidableEq, Repr

structure Document where
  defaults : OptionList
  sections : List Section
  deriving DecidableEq, Repr

namespace Document

def empty : Document := ⟨[], []⟩

def defaultName : Text := "DEFAULT".toList

def section? (d : Document) (name : Text) : Option Section :=
  d.sections.find? (·.name = name)

/-- The value of an option as it is written: of the section itself, else of the defaults. -/
def rawIn (d : Document) (s : Section) (option : Text) : Option Text :=
  s.options.lookup option <|> d.defaults.lookup option

def setRaw (d : Document) (name option value : Text) : Document :=
  { d with sections := d.sections.map fun s =>
      if s.name = name then { s with options := OptionList.set option value s.options } else s }

end Document

end TapeStudio
