import PluginAudit.Checks.Files
import PluginAudit.Preparation.DemoPosts
import PluginAudit.Text.Percent

/-!
# Assets that a plugin loads

Checks that visit pages of the site and look at the scripts and style sheets
that the plugin loads there: the home page, and for each post type that
visitors see the latest post.
-/

namespace PluginAudit

open PluginAudit.Text

namespace EnqueuedAssets

/-- The request for one demo post of each post type that visitors see. -/
def demoPosts (host : Host) : SharedPreparation :=
  DemoPosts.shared (host.publicPostTypes.map Post.demo)

/-- The address of the latest post of each type in a list. -/
def postAddresses (host : Host) : List String → Except Error (List String)
  | [] => .ok []
  | postType :: rest =>
      match host.findPost postType with
      | none => postAddresses host rest
      | some id => do
          let address ← host.permalink id
          return address :: (← postAddresses host rest)

/-- The addresses to visit: the home page and the latest posts. -/
def addresses (host : Host) : Except Error (List String) :=
  (postAddresses host host.publicPostTypes).map ((host.homeAddress ++ "/") :: ·)

def isOwn (context : PluginContext) (asset : Asset) : Bool :=
  match asset.path with
  | some path => path.startsWith context.directory
  -- without file, the address decides
  | none => (after? context.address.toList asset.source.toList).isSome

/-- The file that findings about an asset name. -/
def fileOf (context : PluginContext) (asset : Asset) : Path :=
  match asset.path with
  | some path => path
  | none =>
      -- it is read off the address, whose query and fragment name no file
      let source := asset.source.toList
      let relative := (after? context.address.toList source).getD source
      ⟨String.ofList (Percent.decode (relative.takeWhile fun c => c != '?' && c != '#'))⟩

/-- Visit an address and give the assets of a kind that the plugin loads
there. -/
def visit (context : PluginContext) (kind : AssetKind) (address : String) : Act (List Asset) :=
  fun world =>
    let (host, answer) := world.host.dispatch address
    (answer.map fun assets => assets.filter fun a => a.kind == kind && isOwn context a,
      { world with host })

def noun : AssetKind → String
  | .script => "script"
  | .style => "style"

/-! ## Size -/

/-- The sum of two sizes, unless 64 bits do not hold it. -/
def addSize (total size : UInt64) : Except Error UInt64 :=
  if total + size < total then .error .overflow else .ok (total + size)

def totalSize (assets : List Asset) : Except Error UInt64 :=
  assets.foldlM (fun total asset => addSize total asset.size) 0

def sizeCode : AssetKind → String
  | .script => "EnqueuedScriptsSize.ScriptSizeGreaterThanThreshold"
  | .style => "EnqueuedStylesSize.StyleSizeGreaterThanThreshold"

/-- The finding about an asset of a page whose assets are too large. -/
def sizeFinding (context : PluginContext) (kind : AssetKind) (threshold : UInt64)
    (address : String) (asset : Asset) : Finding :=
  { severity := .warning
    text := "This " ++ noun kind ++ " has a size of " ++ toString asset.size ++
      " bytes which in combination with the other " ++ noun kind ++ "s enqueued on " ++ address ++
      " exceeds the " ++ noun kind ++ " size threshold of " ++ toString threshold ++ " bytes."
    code := sizeCode kind
    file := (fileOf context asset).text }

/-- The findings about the assets of a page. -/
def sizeFindings (context : PluginContext) (kind : AssetKind) (threshold : UInt64)
    (address : String) (assets : List Asset) : Except Error (List Finding) :=
  (totalSize assets).map fun total =>
    if total ≤ threshold then [] else assets.map (sizeFinding context kind threshold address)

/-- Visit addresses in order and look at the sizes. -/
def lookAtSizes (context : PluginContext) (kind : AssetKind) (threshold : UInt64)
    (world : World) : List String → CheckOutcome × World
  | [] => ({}, world)
  | address :: rest =>
      match (visit context kind address).runIn world with
      | (.error e, world) => (.broken e, world)
      | (.ok assets, world) =>
          match sizeFindings context kind threshold address assets with
          | .error e => (.broken e, world)
          | .ok found =>
              let (later, world) := lookAtSizes context kind threshold world rest
              ((CheckOutcome.found found).andThen later, world)

/-- The check of the size of all assets that are loaded together. -/
def sizeCheck (kind : AssetKind) (threshold : UInt64) : Check where
  mode := .runtime
  categories := [.performance]
  description :=
    match kind with
    | .script => "Checks whether the cumulative size of all scripts enqueued on a page exceeds the threshold."
    | .style => "Checks whether the cumulative size of all stylesheets enqueued on a page exceeds the threshold."
  documentation := handbook ++ "javascript/enqueuing/"
  sharedPreparations host := [demoPosts host]
  run context world :=
    match addresses world.host with
    | .error e => (.broken e, world)
    | .ok all => lookAtSizes context kind threshold world all

/-! ## Scope -/

/-- The assets of a page by handle. -/
def byHandle (assets : List Asset) : List (String × Asset) :=
  -- of two assets with one handle the last counts
  assets.foldl (fun page asset => Assoc.put textLess asset.handle asset page) []

/-- The handles met so far, on how many pages each was met, and its asset on the
first of them. -/
abbrev Tally := List (String × Nat × Asset)

def countPage (tally : Tally) (assets : List Asset) : Tally :=
  (byHandle assets).foldl (fun tally (handle, asset) =>
    Assoc.update textLess handle (0, asset) (fun (count, first) => (count + 1, first)) tally) tally

/-- Visit addresses in order and count the pages of each handle. -/
def tallyPages (context : PluginContext) (kind : AssetKind) (tally : Tally) :
    List String → Act Tally
  | [] => pure tally
  | address :: rest => do
      let assets ← visit context kind address
      tallyPages context kind (countPage tally assets) rest

def scopeCode : AssetKind → String
  | .script => "EnqueuedScriptsScope"
  | .style => "EnqueuedStylesScope"

/-- The findings about the handles that were met on all pages. -/
def scopeFindings (context : PluginContext) (kind : AssetKind) (pages : Nat) (tally : Tally) :
    List Finding :=
  (tally.filter fun (_, count, _) => count == pages).map fun (_, _, asset) =>
    { severity := .warning
      text := "This " ++ noun kind ++ " is being loaded in all contexts."
      code := scopeCode kind
      file := (fileOf context asset).text }

/-- The check for assets that are loaded everywhere. -/
def scopeCheck (kind : AssetKind) : Check where
  mode := .runtime
  stability := .experimental
  categories := [.performance]
  description :=
    match kind with
    | .script => "Checks whether any scripts are loaded on all pages, which is usually not desirable."
    | .style => "Checks whether any stylesheets are loaded on all pages, which is usually not desirable."
  documentation := handbook ++ "javascript/enqueuing/"
  sharedPreparations host := [demoPosts host]
  run context world :=
    match addresses world.host with
    | .error e => (.broken e, world)
    | .ok all =>
        let (tally, world) := (tallyPages context kind [] all).runIn world
        (.needing tally fun tally => .found (scopeFindings context kind all.length tally), world)

end EnqueuedAssets

end PluginAudit
