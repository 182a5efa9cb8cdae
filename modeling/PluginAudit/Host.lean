import PluginAudit.Host.Environment
import PluginAudit.Host.Filters
import PluginAudit.Plugin.Installed
import PluginAudit.Text.Quoted

/-!
# The site

The site that plugins are installed on: its plugins, its active plugins and
theme, its tables by prefix, its posts, and the requests it answers.  A site is
either simulated as a whole, or it is an installation on disk, of which the
changes that checks make are tracked without touching its database.

Every change is a function on the site.  What fails gives an error and leaves
the rest of the site as it is.
-/

namespace PluginAudit

open PluginAudit.Text

structure Post where
  postType : String
  title : String
  content : String
  /-- The status, `publish` for a post that visitors see. -/
  status : String
deriving DecidableEq, Inhabited

def Post.demo (postType : String) : Post :=
  { postType, title := s!"Demo {postType} post", content := "Test content", status := "publish" }

/-- A post of the site and the table prefix it was inserted under. -/
structure StoredPost where
  tablePrefix : String
  post : Post
deriving DecidableEq, Inhabited

inductive AssetKind
  | script
  | style
deriving DecidableEq, Inhabited

/-- An asset that a page of the site loads. -/
structure Asset where
  handle : String
  kind : AssetKind
  source : String
  /-- The file behind it, if that is known. -/
  path : Option Path
  /-- The size in bytes, inline code included. -/
  size : UInt64
deriving DecidableEq, Inhabited

/-- An asset that is loaded while a plugin is active. -/
structure RegisteredAsset where
  plugin : String
  /-- The only address it is loaded at, unless it is loaded everywhere. -/
  onlyAt : Option String
  asset : Asset
deriving DecidableEq, Inhabited

/-- What a simulated site does by itself. -/
structure Simulation where
  plugins : InstalledPlugins := []
  postTypes : List String := ["post", "page"]
  assets : List RegisteredAsset := []
  answersRequests : Bool := true
  nonces : List (String × String) := []
  /-- The number of the insertion that fails, counted from zero. -/
  failingInsertion : Option Nat := none
  failsDeletions : Bool := false
  insertions : Nat := 0
  /-- The addresses that were requested, in order. -/
  requested : List String := []
deriving DecidableEq, Inhabited

inductive Runtime
  /-- Nothing but a simulation. -/
  | simulated (simulation : Simulation)
  | installed (root : Path)
deriving DecidableEq, Inhabited

structure Host where
  pluginsDirectory : Path
  /-- The directory of the content, which holds drop-in files. -/
  contentDirectory : Path
  pluginsAddress : String
  homeAddress : String
  environment : EnvironmentType
  theme : String
  /-- The prefix of the site's own tables. -/
  sitePrefix : String
  filters : Filters
  tablePrefix : String
  /-- All tables, in ascending order. -/
  tables : List String
  active : List (String × List String)
  /-- The theme directories, in ascending order. -/
  themeDirectories : List Path
  posts : List (Nat × StoredPost)
  nextPost : Nat
  runtime : Runtime
deriving Inhabited

namespace Host

/-- The names of the tables that an installation makes, without prefix. -/
def coreTables : List String :=
  ["commentmeta", "comments", "links", "options", "postmeta", "posts", "term_relationships",
    "term_taxonomy", "termmeta", "terms", "usermeta", "users"]

/-- The tables that an installation makes under a prefix. -/
def coreTablesUnder (pre : String) : List String := coreTables.map (pre ++ ·)

/-- A site below a directory with nothing on it but its own tables. -/
def fresh (root : Path) (pre home : String) (runtime : Runtime) : Host where
  pluginsDirectory := (root.join "wp-content").join "plugins"
  contentDirectory := root.join "wp-content"
  pluginsAddress := home ++ "/wp-content/plugins"
  homeAddress := home
  environment := .production
  theme := "twentytwentyfour"
  sitePrefix := pre
  filters := {}
  tablePrefix := pre
  tables := (coreTablesUnder pre).foldl (fun all t => SortedList.insert textLess t all) []
  active := [(pre, [])]
  themeDirectories := []
  posts := []
  nextPost := 1
  runtime

def simulated (root : Path) (simulation : Simulation) : Host :=
  fresh root "wp_" "http://example.org" (.simulated simulation)

/-! ## Installations on disk -/

def isPrefixChar (c : Char) : Bool := isAsciiAlphanumeric c || c == '_'

/-- Whether a text can be a table prefix. -/
def isTablePrefix (text : String) : Bool := !text.isEmpty && text.toList.all isPrefixChar

/-- Whether a character can stand around a value in a configuration. -/
def isQuote (c : Char) : Bool := c == '\'' || c == '"'

/-- The prefix that a text assigns right behind the name of the variable. -/
def assignedPrefix? (text : List Char) : Option String :=
  match text.dropWhile isBlank with
  | '=' :: behindSign =>
      match behindSign.dropWhile isBlank with
      | c :: rest =>
          if !isQuote c then none
          else
            let value := rest.takeWhile isPrefixChar
            match rest.drop value.length with
            | d :: behind =>
                if isQuote d && !value.isEmpty && (behind.dropWhile isBlank).head? == some ';' then
                  some (String.ofList value)
                else none
            | [] => none
      | [] => none
  | _ => none

/-- The first table prefix that a configuration assigns. -/
def configuredPrefix? : List Char → Option String
  | [] => none
  | c :: rest =>
      match (after? "$table_prefix".toList (c :: rest)).bind assignedPrefix? with
      | some value => some value
      | none => configuredPrefix? rest

/-- The prefix of an installation that configures none. -/
def defaultPrefix : String := "wp_"

def openInstallation (disk : Disk) (root : Path) : Except Error Host :=
  if !disk.isDirectory ((root.join "wp-content").join "plugins") then
    .error (.config (root.text ++
      " does not look like a WordPress install (no wp-content/plugins)") none)
  else
    let build (pre : String) : Host := fresh root pre "http://localhost" (.installed root)
    let file := root.join "wp-config.php"
    match disk.readText file with
    | .ok text => .ok (build ((configuredPrefix? text.toList).getD defaultPrefix))
    | .error .missing => .ok (build defaultPrefix)
    | .error fault => .error (.file file fault)

def withoutTrailingSlashes (address : String) : String :=
  String.ofList (trimEndBy (· == '/') address.toList)

/-- The site under another address; that of the plugins follows. -/
def withHomeAddress (h : Host) (address : String) : Host :=
  let home := withoutTrailingSlashes address
  { h with homeAddress := home, pluginsAddress := home ++ "/wp-content/plugins" }

/-- The site with another address of its plugins. -/
def withPluginsAddress (h : Host) (address : String) : Host :=
  { h with pluginsAddress := withoutTrailingSlashes address }

def withActivePlugins (h : Host) (plugins : List String) : Host :=
  { h with active := Assoc.put textLess h.sitePrefix plugins h.active }

/-! ## Plugins and theme -/

def installedPlugins (h : Host) (disk : Disk) : Except Error InstalledPlugins :=
  match h.runtime with
  | .simulated simulation => .ok simulation.plugins
  | .installed _ => InstalledPlugins.discover disk h.pluginsDirectory

/-- The active plugins stored under the table prefix in use. -/
def storedActivePlugins (h : Host) : List String :=
  (Assoc.get? h.tablePrefix h.active).getD []

/-- The active plugins as the site answers them. -/
def activePlugins (h : Host) : List String :=
  h.filters.applyList .activePlugins h.storedActivePlugins

/-- The parent theme as the site answers it. -/
def template (h : Host) : String := h.filters.applyText .template h.theme

/-- The child theme as the site answers it. -/
def stylesheet (h : Host) : String := h.filters.applyText .stylesheet h.theme

/-- Store the active plugins under the table prefix in use. -/
def storeActivePlugins (h : Host) (plugins : List String) : Except Error Host :=
  if h.tables.contains (h.tablePrefix ++ "options") then
    .ok { h with active := Assoc.put textLess h.tablePrefix plugins h.active }
  else .error (.host ("no options table under prefix " ++ h.tablePrefix))

def hasThemeDirectory (h : Host) (directory : Path) : Bool :=
  h.themeDirectories.any directory.same

def registerThemeDirectory (h : Host) (directory : Path) : Host :=
  { h with themeDirectories := SortedList.insert Path.less directory h.themeDirectories }

def deregisterThemeDirectory (h : Host) (directory : Path) : Host :=
  { h with themeDirectories := h.themeDirectories.filter fun d => !directory.same d }

/-! ## Tables -/

def useTablePrefix (h : Host) (pre : String) : Except Error Host :=
  if isTablePrefix pre then .ok { h with tablePrefix := pre }
  else .error (.host ("invalid table prefix: " ++ quoted pre))

/-- The tables of an installation that exist under a prefix. -/
def tablesUnder (h : Host) (pre : String) : List String :=
  h.tables.filter fun table =>
    match after? pre.toList table.toList with
    | some name => coreTables.contains (String.ofList name)
    | none => false

def install (h : Host) : Host :=
  { h with
    tables := (coreTablesUnder h.tablePrefix).foldl
      (fun all t => SortedList.insert textLess t all) h.tables
    -- tables and active plugins that are there stay
    active := Assoc.update textLess h.tablePrefix [] id h.active }

def dropTable (h : Host) (table : String) : Host :=
  { h with
    tables := h.tables.filter (· != table)
    active :=
      -- the active plugins are stored in the table of options
      match before? "options".toList table.toList with
      | some pre => Assoc.erase (String.ofList pre) h.active
      | none => h.active }

/-! ## Posts -/

def storePost (h : Host) (post : Post) : Host × Nat :=
  ({ h with
    posts := Assoc.put natLess h.nextPost ⟨h.tablePrefix, post⟩ h.posts
    nextPost := h.nextPost + 1 }, h.nextPost)

def insertPost (h : Host) (post : Post) : Host × Except Error Nat :=
  match h.runtime with
  | .installed _ =>
      let (h, id) := h.storePost post
      (h, .ok id)
  | .simulated simulation =>
      -- the insertion counts even if it fails
      let counted : Host :=
        { h with runtime := .simulated { simulation with insertions := simulation.insertions + 1 } }
      if simulation.failingInsertion == some simulation.insertions then
        (counted, .error (.host ("could not insert " ++ post.postType ++ " post")))
      else
        let (h, id) := counted.storePost post
        (h, .ok id)

def refusesDeletions (h : Host) : Bool :=
  match h.runtime with
  | .simulated simulation => simulation.failsDeletions
  | .installed _ => false

/-- The failure of naming a post that is not there. -/
def missingPost (id : Nat) : Error := .host s!"post {id} does not exist"

def deletePost (h : Host) (id : Nat) : Except Error Host :=
  if h.refusesDeletions then .error (.host s!"could not delete post {id}")
  else if Assoc.contains id h.posts then .ok { h with posts := Assoc.erase id h.posts }
  else .error (missingPost id)

/-- Whether visitors see a post among those of a type under the table prefix in
use. -/
def shows (h : Host) (postType : String) (stored : StoredPost) : Bool :=
  stored.tablePrefix == h.tablePrefix && stored.post.postType == postType &&
    stored.post.status == "publish"

/-- The latest post of a type that visitors see. -/
def findPost (h : Host) (postType : String) : Option Nat :=
  ((h.posts.filter fun entry => h.shows postType entry.2).map Prod.fst).getLast?

def permalink (h : Host) (id : Nat) : Except Error String :=
  if Assoc.contains id h.posts then .ok (h.homeAddress ++ s!"/?p={id}") else .error (missingPost id)

def publicPostTypes (h : Host) : List String :=
  match h.runtime with
  | .simulated simulation => simulation.postTypes
  | .installed _ => ["post", "page"]

/-! ## Requests -/

def answersRequests (h : Host) : Bool :=
  match h.runtime with
  | .simulated simulation => simulation.answersRequests
  | .installed _ => false

/-- The assets of a simulated site that are loaded at an address. -/
def loadedAssets (simulation : Simulation) (active : List String) (address : String) :
    List Asset :=
  (simulation.assets.filter fun a =>
    active.contains a.plugin && a.onlyAt.all (· == address)).map RegisteredAsset.asset

/-- Request an address and answer which assets are loaded there. -/
def dispatch (h : Host) (address : String) : Host × Except Error (List Asset) :=
  match h.runtime with
  | .installed _ =>
      (h, .error (.host ("cannot dispatch " ++ address ++ " without a PHP runtime")))
  | .simulated simulation =>
      if !simulation.answersRequests then
        (h, .error (.host "request simulation is disabled"))
      else
        let h : Host :=
          { h with
            runtime := .simulated
              { simulation with requested := simulation.requested ++ [address] } }
        (h, .ok (loadedAssets simulation h.activePlugins address))

def acceptsNonce (h : Host) (nonce action : String) : Bool :=
  match h.runtime with
  | .simulated simulation => simulation.nonces.contains (action, nonce)
  | .installed _ => false

end Host

end PluginAudit
