import PluginAudit.Host

/-!
# Calls of a site

The operations of a site as data, with what they answer, so that a sequence of
them can be carried out and reasoned about as a whole.
-/

namespace PluginAudit

inductive HostCall
  | tablePrefix
  /-- Use another table prefix; the one before is answered. -/
  | useTablePrefix (pre : String)
  | tables (pre : String)
  | install
  | dropTable (table : String)
  | storedActivePlugins
  | storeActivePlugins (plugins : List String)
  | activePlugins
  | template
  | stylesheet
  /-- Register a theme directory; whether it was not registered before is
  answered. -/
  | registerThemeDirectory (directory : Path)
  | deregisterThemeDirectory (directory : Path)
  /-- Add a filter; its number is answered. -/
  | addFilter (hook : Hook) (change : FilterValue → FilterValue)
  /-- Remove a filter; whether it was there is answered. -/
  | removeFilter (id : Nat)
  | applyFilters (hook : Hook) (value : FilterValue)
  /-- Apply the filters of a hook to a text. -/
  | filterText (hook : Hook) (text : String)
  /-- Apply the filters of a hook to a list. -/
  | filterList (hook : Hook) (items : List String)
  /-- Ask for the number of filters of a hook. -/
  | countFilters (hook : Hook)
  | insertPost (post : Post)
  | deletePost (id : Nat)
  /-- Ask for the latest post of a type. -/
  | findPost (postType : String)
  | permalink (id : Nat)
  | publicPostTypes
  | dispatch (address : String)
  | acceptsNonce (nonce action : String)

inductive HostAnswer
  | done
  | missing
  | text (value : String)
  | texts (items : List String)
  | number (value : Nat)
  | truth (value : Bool)
  | assets (loaded : List Asset)
  | failure (e : Error)
deriving DecidableEq, Inhabited

namespace HostAnswer

def ofValue : FilterValue → HostAnswer
  | .text value => .text value
  | .list items => .texts items

/-- The answer to a question that may fail. -/
def ofOutcome {α : Type} (answer : α → HostAnswer) : Except Error α → HostAnswer
  | .ok value => answer value
  | .error e => .failure e

end HostAnswer

namespace HostCall

/-- A change that may be refused; then the site stays as it is. -/
def change (h : Host) (answer : HostAnswer) : Except Error Host → HostAnswer × Host
  | .ok changed => (answer, changed)
  | .error e => (.failure e, h)

def perform (h : Host) : HostCall → HostAnswer × Host
  | tablePrefix => (.text h.tablePrefix, h)
  | useTablePrefix pre => change h (.text h.tablePrefix) (h.useTablePrefix pre)
  | tables pre => (.texts (h.tablesUnder pre), h)
  | install => (.done, h.install)
  | dropTable table => (.done, h.dropTable table)
  | storedActivePlugins => (.texts h.storedActivePlugins, h)
  | storeActivePlugins plugins => change h .done (h.storeActivePlugins plugins)
  | activePlugins => (.texts h.activePlugins, h)
  | template => (.text h.template, h)
  | stylesheet => (.text h.stylesheet, h)
  | registerThemeDirectory directory =>
      (.truth (!h.hasThemeDirectory directory), h.registerThemeDirectory directory)
  | deregisterThemeDirectory directory => (.done, h.deregisterThemeDirectory directory)
  | addFilter hook change =>
      let (filters, id) := h.filters.add hook change
      (.number id, { h with filters })
  | removeFilter id =>
      (.truth (h.filters.contains id), { h with filters := h.filters.remove id })
  | applyFilters hook value => (.ofValue (h.filters.apply hook value), h)
  | filterText hook text => (.text (h.filters.applyText hook text), h)
  | filterList hook items => (.texts (h.filters.applyList hook items), h)
  | countFilters hook => (.number (h.filters.count hook), h)
  | insertPost post =>
      let (h, outcome) := h.insertPost post
      (.ofOutcome .number outcome, h)
  | deletePost id => change h .done (h.deletePost id)
  | findPost postType =>
      (match h.findPost postType with
        | some id => .number id
        | none => .missing, h)
  | permalink id => (.ofOutcome .text (h.permalink id), h)
  | publicPostTypes => (.texts h.publicPostTypes, h)
  | dispatch address =>
      let (h, outcome) := h.dispatch address
      (.ofOutcome .assets outcome, h)
  | acceptsNonce nonce action => (.truth (h.acceptsNonce nonce action), h)

/-- Carry out operations in turn and collect the answers. -/
def performAll (h : Host) : List HostCall → List HostAnswer × Host
  | [] => ([], h)
  | call :: rest =>
      let (answer, h) := call.perform h
      let (answers, h) := performAll h rest
      (answer :: answers, h)

end HostCall

end PluginAudit
