import DocumentQuery.Monitor.Report

/-!
Sessions: a window of counts and the calls that move it. A compile call counts as such and for its
resolutions; finding a property or looking for wildcards counts for the resolutions alone. Between
calls the window can be reported on.
-/

namespace DocumentQuery

inductive Call where
  | compile (query : Query)
  | resolve (path : String)
  | selectsWildcard (select : List Operand)
  | reset

namespace Tally

def after (compiler : Compiler) (tally : Tally) : Call → Tally
  | .compile query => tally.noteCompile (compiler.compile query)
  | .resolve path => tally.noteResolutions (compiler.resolve path).resolutions
  | .selectsWildcard select =>
      tally.noteResolutions (compiler.selectsWildcard select).resolutions
  | .reset => zero

/-- The tally after calls one after another, each to a compiler of its own. -/
def afterAll (tally : Tally) (calls : List (Compiler × Call)) : Tally :=
  calls.foldl (fun current (compiler, call) => current.after compiler call) tally

end Tally

/-- What a session is asked for: a call to a compiler at some time, or a report. -/
inductive Demand where
  | call (now : Nat) (compiler : Compiler) (call : Call)
  | report (requested : Option Nat)

namespace Window

/-- The window after a call. Only a reset lets it begin anew. -/
def after (now : Nat) (compiler : Compiler) (window : Window) (call : Call) : Window :=
  { start :=
      match call with
      | .compile _ | .resolve _ | .selectsWildcard _ => window.start
      | .reset => now
    tally := window.tally.after compiler call }

def serve (window : Window) : Demand → Window × Option Report
  | .call now compiler call => (window.after now compiler call, none)
  | .report requested => (window, some (window.report requested))

end Window

end DocumentQuery
