/-!
# Notices

What a session tells its host while it works. Each notice is a value; its text is made from it
in one place.

## Main definitions

* `Level` — how important a notice is.
* `Notice` — what is said.
* `LogEntry` — a notice with its level.
-/

namespace StyleExtract

/-- How important a notice is. -/
inductive Level where
  | error
  | warn
  | info
  | debug
  | trace
  deriving DecidableEq, Repr

/-- What is said. -/
inductive Notice where
  /-- A template has interpolations and is left alone. -/
  | interpolated (file varName : String)
  /-- A part of a definition is not a literal and is left out. -/
  | skipped (file what : String) (place : Nat)
  /-- A default names no declared pair. -/
  | unknownDefault (file dimension value : String)
  /-- A condition names no declared pair. -/
  | unknownCondition (file dimension value : String)
  /-- A file does not import the authoring functions. -/
  | noImport (id : String)
  /-- A file has nothing to compile. -/
  | noConstructs (id : String)
  /-- A file is not a module of its language. -/
  | parseError (id : String)
  /-- A file was compiled. -/
  | compiled (id : String) (count : Nat)
  /-- A module was registered. -/
  | registered (id : String)
  /-- The modules of a file were replaced. -/
  | replaced (count : Nat) (file : String)
  /-- The modules of a file were dropped. -/
  | invalidated (count : Nat) (file : String)
  /-- A virtual module is not registered. -/
  | noCss (id : String)
  /-- A chunk gets a style sheet. -/
  | emitting (chunk asset : String)
  /-- The session ends. -/
  | ended (count : Nat)
  deriving DecidableEq, Repr

/-- A notice in words. -/
def Notice.text : Notice → String
  | .interpolated file varName =>
    file ++ ": `" ++ varName ++
      "` uses $\x7b\x7d interpolation, which is not compiled; left as is"
  | .skipped file what place =>
    file ++ ": ignoring " ++ what ++ " at byte " ++ toString place ++ ": not a literal"
  | .unknownDefault file d v =>
    file ++ ": default variant " ++ d ++ "=" ++ v ++ " names no declared variant"
  | .unknownCondition file d v =>
    file ++ ": compound variant condition " ++ d ++ "=" ++ v ++ " names no declared variant"
  | .noImport id => id ++ ": no styled-static import"
  | .noConstructs id => id ++ ": no constructs found"
  | .parseError id => id ++ ": parse error"
  | .compiled id n => id ++ ": compiled " ++ toString n ++ " constructs"
  | .registered id => "register " ++ id
  | .replaced n file => "replace " ++ toString n ++ " css modules of " ++ file
  | .invalidated n file => "invalidated " ++ toString n ++ " css modules of " ++ file
  | .noCss id => id ++ ": no css registered"
  | .emitting chunk asset => chunk ++ ": emitting " ++ asset
  | .ended n => "styled-static session ends with " ++ toString n ++ " css modules"

/-- A notice with its level. -/
structure LogEntry where
  /-- How important it is. -/
  level : Level
  /-- What it says. -/
  notice : Notice
  deriving DecidableEq, Repr

end StyleExtract
