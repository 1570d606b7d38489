/-
# BrowserScript.CommandKind -- the commands of the language

Thirty-two kinds of command, each with one canonical name. Scripts written in an
older spelling use names with underscores; `resolveAlias` maps those to canonical
names and **leaves every other name as it is**, so that an unknown name is
reported in the words of the script.
-/

namespace BrowserScript

/-- What a command does. -/
inductive CommandKind where
  | navigate
  | goBack
  | goForward
  | reload
  | click
  | dblclick
  | fill
  | type
  | press
  | hover
  | focus
  | blur
  | clear
  | check
  | uncheck
  | selectOption
  | wait
  | waitForSelector
  | screenshot
  | setViewport
  | assertVisible
  | assertHidden
  | assertText
  | assertValue
  | assertEnabled
  | assertDisabled
  | assertChecked
  | assertUnchecked
  | assertUrl
  | assertTitle
  | assertCount
  | log
  deriving DecidableEq, Repr

namespace CommandKind

/-! ## Canonical names -/

/-- Every kind, in the order in which they are listed. -/
def all : List CommandKind :=
  [navigate, goBack, goForward, reload, click, dblclick, fill, type, press, hover, focus, blur,
   clear, check, uncheck, selectOption, wait, waitForSelector, screenshot, setViewport,
   assertVisible, assertHidden, assertText, assertValue, assertEnabled, assertDisabled,
   assertChecked, assertUnchecked, assertUrl, assertTitle, assertCount, log]

/-- The canonical name of a kind. -/
def name : CommandKind → String
  | navigate => "navigate"
  | goBack => "goBack"
  | goForward => "goForward"
  | reload => "reload"
  | click => "click"
  | dblclick => "dblclick"
  | fill => "fill"
  | type => "type"
  | press => "press"
  | hover => "hover"
  | focus => "focus"
  | blur => "blur"
  | clear => "clear"
  | check => "check"
  | uncheck => "uncheck"
  | selectOption => "selectOption"
  | wait => "wait"
  | waitForSelector => "waitForSelector"
  | screenshot => "screenshot"
  | setViewport => "setViewport"
  | assertVisible => "assertVisible"
  | assertHidden => "assertHidden"
  | assertText => "assertText"
  | assertValue => "assertValue"
  | assertEnabled => "assertEnabled"
  | assertDisabled => "assertDisabled"
  | assertChecked => "assertChecked"
  | assertUnchecked => "assertUnchecked"
  | assertUrl => "assertUrl"
  | assertTitle => "assertTitle"
  | assertCount => "assertCount"
  | log => "log"

/-- The kind of a canonical name, in exactly this spelling. -/
def ofName? (name : String) : Option CommandKind :=
  all.find? fun k => k.name == name

theorem ofName?_name (k : CommandKind) : ofName? k.name = some k := by cases k <;> decide

/-- A name belongs to at most one kind, and every kind is found by its name. -/
theorem ofName?_eq_some_iff {n : String} {k : CommandKind} : ofName? n = some k ↔ k.name = n := by
  constructor
  · intro h
    simpa using List.find?_some h
  · rintro rfl
    exact ofName?_name k

/-- What is said of a name that no kind has. -/
def unknownMessage (name : String) : String :=
  "unknown command: " ++ name

/-! ## Older spellings -/

/-- The older spellings, each with the kind that it names. -/
def aliases : List (String × CommandKind) :=
  [("assert_exists", assertVisible), ("assert_not_exists", assertHidden),
   ("assert_visible", assertVisible), ("assert_hidden", assertHidden),
   ("assert_text", assertText), ("assert_value", assertValue),
   ("assert_enabled", assertEnabled), ("assert_disabled", assertDisabled),
   ("assert_checked", assertChecked), ("assert_unchecked", assertUnchecked),
   ("assert_url", assertUrl), ("assert_title", assertTitle), ("assert_count", assertCount),
   ("wait_navigation", wait), ("wait_for", waitForSelector),
   ("wait_for_selector", waitForSelector), ("go_back", goBack), ("go_forward", goForward),
   ("select_option", selectOption), ("set_viewport", setViewport), ("double_click", dblclick)]

/-- The canonical name for an older spelling; any other name is returned as it is. -/
def resolveAlias (name : String) : String :=
  match aliases.lookup name with
  | some kind => kind.name
  | none => name

/-! ## Requirements -/

/-- Whether the command acts on an element and therefore needs a selector. -/
def requiresSelector : CommandKind → Bool
  | click | dblclick | fill | type | hover | focus | blur | clear | check | uncheck
  | selectOption | waitForSelector | assertVisible | assertHidden | assertText | assertValue
  | assertEnabled | assertDisabled | assertChecked | assertUnchecked | assertCount => true
  | _ => false

/-- The parameters without which the command means nothing, in the order in which
their absence is reported. -/
def requiredParams : CommandKind → List String
  | navigate => ["url"]
  | fill => ["value"]
  | _ => []

end CommandKind

end BrowserScript
