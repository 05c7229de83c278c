import AdminConsole.Console

/-!
# A tab of the browser

The console as it is used in a tab: what the visitor, the network, the clock and the browser itself
do to it, and what can be seen of each step. Before the console is loaded nothing happens.
-/

namespace AdminConsole

inductive Tab where
  | blank (b : Browser)
  | showing (c : Console)

/-- Which of the requests under way is answered: the first with a method and path, or the one at a
place. -/
inductive Addressee where
  | label (text : String)
  | place (n : Nat)

inductive Step where
  | load (url : String)
  | navigate (url : String)
  | respond (addressee : Addressee) (delivery : Http.Delivery)
  | focus
  | interval
  | click (n : Nat)
  | input (n : Nat) (value : String)
  | select (value : String)
  | submit
  | setFault (f : Facility) (text : Option String)
  | setOrigin (origin : String)
  | setJar (jar : String)

inductive Report where
  | done
  | found (b : Bool)
  | listeners (n : Nat)
  | fired (n : Nat)
  | prevented (b : Bool)
  | noElement
deriving DecidableEq, Repr

namespace Tab

def browser : Tab → Browser
  | .blank b => b
  | .showing c => c.browser

def setBrowser (b : Browser) : Tab → Tab
  | .blank _ => .blank b
  | .showing c => .showing (c.setBrowser b)

def begin : Tab → Tab
  | .blank b => .blank { b with effects := [] }
  | .showing c =>
    .showing ({ c with sent := [] }.setBrowser { c.browser with effects := [] })

def cutAddress (url : String) : String × String :=
  let (path, query) := Text.cut '?' (url.toList.takeWhile (· ≠ '#'))
  (String.ofList path, String.ofList (query.getD []))

def labelOf (r : Http.Request) : String := r.method ++ " " ++ String.ofList r.url.pathText

def placeOf? (c : Console) : Addressee → Option Nat
  | .label text => c.pending.findIdx? fun p => labelOf p.request = text
  | .place n => if n < c.pending.length then some n else none

def use (c : Console) (tag : String) (n : Nat) (value : String) (prevented : Bool) :
    Report × Console :=
  match (Html.allActions tag c.view)[n]? with
  | some action => (.prevented prevented, c.act action value)
  | none => (.noElement, c)

def stepConsole (c : Console) : Step → Report × Console
  | .load url =>
    let (path, query) := cutAddress url
    (.done, Console.load c.browser path query)
  | .navigate url =>
    let (path, query) := cutAddress url
    (.done, c.navigate path query)
  | .respond addressee delivery =>
    match (placeOf? c addressee).bind fun n => c.respond n fun r => delivery.answer r.method with
    | some c => (.found true, c)
    | none => (.found false, c)
  | .focus => (.listeners 1, c.focus)
  | .interval => (.fired c.timers.length, c.tick)
  | .click n => use c "button" n "" false
  | .input n value => use c "input" n value false
  | .select value => use c "select" 0 value false
  | .submit => use c "form" 0 "" true
  | .setFault f text => (.done, c.setBrowser (c.browser.setFault f text))
  | .setOrigin origin => (.done, c.setBrowser { c.browser with origin := origin })
  | .setJar jar => (.done, c.setBrowser { c.browser with jar := jar })

def stepBlank (b : Browser) : Step → Report × Tab
  | .load url =>
    let (path, query) := cutAddress url
    (.done, .showing (Console.load b path query))
  | .navigate _ => (.done, .blank b)
  | .respond _ _ => (.found false, .blank b)
  | .focus => (.listeners 0, .blank b)
  | .interval => (.fired 0, .blank b)
  | .click _ | .input _ _ | .select _ | .submit => (.noElement, .blank b)
  | .setFault f text => (.done, .blank (b.setFault f text))
  | .setOrigin origin => (.done, .blank { b with origin := origin })
  | .setJar jar => (.done, .blank { b with jar := jar })

def step (t : Tab) (s : Step) : Report × Tab :=
  match t.begin with
  | .blank b => stepBlank b s
  | .showing c =>
    let (report, c) := stepConsole c s
    (report, .showing c)

/-! ## What can be seen -/

def html : Tab → String
  | .blank _ => ""
  | .showing c => Html.renderAll c.view

def sent : Tab → List Http.Request
  | .blank _ => []
  | .showing c => c.sent

def pending : Tab → List String
  | .blank _ => []
  | .showing c => c.pending.map fun p => labelOf p.request

def timers : Tab → List Nat
  | .blank _ => []
  | .showing c => c.timers

def title : Tab → String
  | .blank _ => ""
  | .showing _ => Browser.title

end Tab

end AdminConsole
