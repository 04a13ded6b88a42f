import LineShell.Context.Query
import LineShell.Proofs.Context.Examination
import LineShell.Shell.Builtin

/-! Typed access to what was read of a line. An accessor may consume an option and log what is
wrong, and leaves all else as it is. -/
namespace LineShell

open LineShell.Line

namespace Framed

variable {α : Type} {f : Context → α} (hf : Framed f)

include hf

theorem argumentAt (c : Context) (index : Nat) (name : String) (p : Option Parser) :
    f (c.argumentAt index name p).2 = f c := by
  unfold Context.argumentAt
  split
  · exact hf.write _ _
  · split
    · rfl
    · rfl
    · exact hf.write _ _

theorem argument (c : Context) (index : Int) (name : Value) (parser : Option Designator) :
    f (c.argument index name parser).2 = f c := by
  unfold Context.argument
  split
  · rfl
  · split
    · rfl
    · exact hf.argumentAt c _ _ _

theorem consume (c : Context) (options : NameMap (Option String)) :
    f { c with options } = f c :=
  hf.read c c.scanner c.arguments options

theorem takeOption (c : Context) (name : String) (p : Option Parser) (default : Value) :
    f (c.takeOption name p default).2 = f c := by
  unfold Context.takeOption
  dsimp only
  split
  · split
    · exact hf.write _ _
    · rfl
  · exact (hf.write _ _).trans (hf.consume c _)
  · split
    · exact hf.consume c _
    · exact hf.consume c _
    · exact (hf.write _ _).trans (hf.consume c _)

theorem option (c : Context) (name : Value) (parser : Option Designator) (default : Value) :
    f (c.option name parser default).2 = f c := by
  unfold Context.option
  split
  · rfl
  · split
    · rfl
    · exact hf.takeOption c _ _ _

theorem takeFlag (c : Context) (name : String) (p : Parser) (default flagValue : Value) :
    f (c.takeFlag name p default flagValue).2 = f c := by
  unfold Context.takeFlag
  split
  · rfl
  · exact hf.consume c _
  · dsimp only
    split
    · exact hf.consume c _
    · exact hf.consume c _
    · exact (hf.write _ _).trans (hf.consume c _)

theorem flag (c : Context) (name : Value) (parser : Option Designator)
    (default flagValue : Value) : f (c.flag name parser default flagValue).2 = f c := by
  unfold Context.flag
  split
  · rfl
  · split
    · rfl
    · exact hf.takeFlag c _ _ _ _

theorem endParsing (c : Context) : f c.endParsing = f c := by
  have hkeeps := foldl_write_keeps f hf.write
    (c.options.keys.map fun name => (Fault.unknownOption name).entry) c
  rw [List.foldl_map] at hkeeps
  exact hkeeps

end Framed

end LineShell
