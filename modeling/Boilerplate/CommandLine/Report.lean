import Boilerplate.CommandLine.Markup
import Boilerplate.Generation.Generator

namespace Boilerplate.CommandLine.Report

open Markup
open Text (CodePoints)
open Text.CodePoints (ofString)

def error (message : String) : CodePoints :=
  printed (ofString "[red]✗ Error:[/red] " ++ escape message)

def sourceError (message : CodePoints) : CodePoints :=
  printed (ofString "[red]✗[/red] " ++ escape message)

def generationError (message : String) : CodePoints :=
  printed (ofString "[red]✗ " ++ escape message ++ ofString "[/red]")

def saved (path : String) : CodePoints :=
  printed (ofString "[green]✓[/green] Generated code saved to [cyan]" ++ escape path ++
    ofString "[/cyan]")

def warnings (ws : List CodePoints) : CodePoints :=
  printed (ofString "[yellow]⚠️  Warnings:[/yellow]") ++
    ws.flatMap fun w ↦ printed (ofString "  [yellow]•[/yellow] " ++ escape w)

def padded (width : Nat) (text : String) : String :=
  text ++ String.ofList (List.replicate (width - Text.width text) ' ')

def consoleWidth : Nat := 80

/-- A text that takes at most the given width; a mark stands for what is left out. -/
def fitted (width : Nat) (text : String) : String :=
  if Text.width text ≤ width then text
  else Text.takeCells (width - 1) text ++ "…"

/-- A table of two columns under a title. The right column gives way where the table would be wider
than the console. -/
def table (title : String) (rows : List (String × String)) : String :=
  let widest (texts : List String) := (texts.map Text.width).foldl max 0
  let left := widest (rows.map (·.1))
  let right := min (widest (rows.map (·.2))) (consoleWidth - (left + 7))
  let line (row : String × String) :=
    "  " ++ padded left row.1 ++ "   " ++ padded right (fitted right row.2) ++ "  \n"
  let space := String.ofList (List.replicate (left + right + 7) ' ') ++ "\n"
  let rule := " " ++ String.ofList (List.replicate (left + right + 5) '─') ++ " \n"
  match rows with
  | [] => ""
  | head :: rows =>
    title ++ "\n" ++ space ++ line head ++ rule ++ String.join (rows.map line) ++ space

def metadata (m : Metadata) : CodePoints :=
  ofString <| "\n" ++ table "📊 Generation Metadata"
    [("Property", "Value"), ("Language", Metadata.language),
      ("Class Name", m.className.getD "None"), ("Field Count", toString m.fieldCount)]

end Boilerplate.CommandLine.Report
