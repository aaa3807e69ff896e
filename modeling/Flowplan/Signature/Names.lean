import Flowplan.Text.Numeral
import Flowplan.Text.Segments

namespace Flowplan.Signature

def words : List String := [
  "andromeda", "orion", "cassiopeia", "lyra", "vega", "sirius", "polaris", "altair",
  "rigel", "deneb", "antares", "arcturus", "betelgeuse", "capella", "canopus", "procyon",
  "aldebaran", "spica", "regulus", "fomalhaut", "achernar", "bellatrix", "mintaka", "alnilam",
  "alnitak", "mizar", "alcor", "dubhe", "merak", "alioth", "sequoia", "baobab", "cypress",
  "juniper", "cedar", "maple", "willow", "birch", "aspen", "magnolia", "acacia", "banyan",
  "redwood", "hemlock", "linden", "sycamore", "alder", "hazel", "laurel", "myrtle", "oleander",
  "wisteria", "jasmine", "orchid", "dahlia", "peony", "lotus", "iris", "azalea", "camellia",
  "obsidian", "quartz", "onyx", "jade", "topaz", "opal", "garnet", "zircon", "beryl", "pyrite",
  "agate", "jasper", "basalt", "granite", "marble", "slate", "feldspar", "mica", "cobalt",
  "titanium", "chromium", "rhodium", "iridium", "osmium", "bismuth", "galena", "calcite",
  "dolomite", "gypsum", "flint", "avalon", "olympus", "elysium", "arcadia", "valhalla", "asgard",
  "atlantis", "eldorado", "utopia", "shangri-la", "camelot", "hyperion", "lemuria", "midgard",
  "nirvana", "zion", "eden", "thule", "lyonesse", "ithaca", "colchis", "delphi", "knossos",
  "mycenae", "thebes", "carthage", "persepolis", "palmyra", "petra", "angkor", "phoenix", "griffin",
  "falcon", "osprey", "condor", "albatross", "peregrine", "kestrel", "merlin", "harrier", "heron",
  "crane", "pelican", "cormorant", "kingfisher", "nightingale", "skylark", "wren", "swift", "raven",
  "panther", "jaguar", "leopard", "lynx", "ocelot", "cheetah", "gazelle", "impala", "oryx", "ibex",
  "nautilus", "triton", "nereid", "coral", "tempest", "tsunami", "monsoon", "maelstrom", "cascade",
  "torrent", "fjord", "lagoon", "atoll", "reef", "delta", "estuary", "rapids", "geyser", "glacier",
  "iceberg", "tundra", "permafrost", "aurora", "boreal", "solstice", "equinox", "zenith", "nadir",
  "meridian", "horizon", "summit", "pinnacle", "ridge", "plateau", "mesa", "canyon", "ravine",
  "caldera", "crater", "volcano", "fumarole", "tectonic", "moraine", "cirque", "escarpment",
  "butte", "bluff", "promontory", "archipelago", "isthmus", "peninsula", "strait", "channel",
  "basin", "watershed", "tributary", "confluence", "headwater", "nebula", "pulsar", "quasar",
  "nova", "cosmos", "stellar", "lunar", "solar", "astral", "celestial", "twilight", "dusk", "dawn",
  "daybreak", "nightfall", "starlight", "moonbeam", "sunburst", "rainbow", "prism", "spectrum",
  "halo", "corona", "nimbus", "cirrus", "stratus", "cumulus", "zephyr", "mistral", "sirocco",
  "carbon", "silicon", "argon", "neon", "helium", "lithium", "sodium", "cesium", "strontium",
  "barium", "radium", "thorium", "uranium", "neptunium", "plutonium", "curium", "fermium",
  "einsteinium", "mendelevium", "nobelium", "lawrencium", "rutherford", "seaborg", "bohrium",
  "hassium", "meitnerium", "darmstadt", "roentgen", "copernicium", "flerovium", "crimson",
  "scarlet", "vermilion", "amber", "saffron", "ochre", "sienna", "umber", "cerulean", "azure",
  "indigo", "violet", "magenta", "cerise", "carmine", "burgundy", "maroon", "teal", "turquoise",
  "emerald", "viridian", "chartreuse", "olive", "khaki", "ivory", "pearl", "silver", "platinum",
  "bronze", "allegro", "adagio", "andante", "crescendo", "fortissimo", "pianissimo", "staccato",
  "legato", "vibrato", "tremolo", "cadenza", "fugue", "sonata", "prelude", "nocturne", "requiem",
  "serenade", "overture", "symphony", "concerto", "aria", "ballad", "etude", "rondo", "scherzo",
  "minuet", "bolero", "tango", "waltz", "mazurka", "spartan", "athenian", "roman", "viking",
  "samurai", "centurion", "gladiator", "pharaoh", "sultan", "emperor", "monarch", "sentinel",
  "guardian", "herald", "vanguard", "pioneer", "voyager", "navigator", "explorer", "pathfinder",
  "trailblazer", "frontier", "outpost", "citadel", "fortress", "bastion", "rampart", "parapet",
  "battlement", "watchtower", "apex", "vertex", "nexus", "cipher", "axiom", "theorem", "paradox",
  "enigma", "quantum", "vector", "matrix", "tensor", "scalar", "fractal", "helix", "spiral",
  "vortex", "flux", "pulse", "surge", "catalyst", "echo", "resonance", "harmony", "cadence",
  "rhythm", "tempo", "momentum", "velocity", "blossom", "harvest", "frost", "ember", "kindle",
  "spark", "blaze", "flame", "inferno", "pyre", "beacon", "lantern", "lighthouse", "compass",
  "anchor", "rudder", "helm", "keel", "mast", "bowsprit", "starboard", "portside", "leeward",
  "windward", "current", "drift", "voyage", "odyssey"]

def wordCount : Nat := words.length

def seed (signature : String) : Except Text.NumeralError Int :=
  Text.integer 16 (String.ofList (signature.toList.take 8))

def wordAt (position : Int) : String := words.getD (position % wordCount).toNat ""

def numbered (word : String) (n : Nat) : String := s!"{word}-{n}"

/-- The least number from two on with which a word is free. One of as many numbers as
there are used names, and one more, is free. -/
def freeNumber (word : String) (used : List String) : Nat :=
  (((List.range (used.length + 1)).map (· + 2)).find? fun n => !used.contains
    (numbered word n)).getD 2

def freeWord (position : Int) (used : List String) : String :=
  let candidates := (List.range wordCount).map fun (offset : Nat) => wordAt (position + offset)
  match candidates.find? (!used.contains ·) with
  | some word => word
  | none => numbered (wordAt position) (freeNumber (wordAt position) used)

def pickName (signature : String) (used : List String) : Except Text.NumeralError String :=
  (seed signature).map (freeWord · used)

def styleSlug (style : String) : List Char :=
  let slug := Text.slug '-' style
  if slug.isEmpty then "style".toList else slug

/-- The digits of the version in a name of a style, which stand behind
`-v` in any script; a line break may follow. -/
def versionDigits? (slug : List Char) (name : String) : Option (List Nat) :=
  let start := slug ++ ['-', 'v']
  let rest := name.toList.drop start.length
  let digits := if rest.getLast? == some '\n' then rest.dropLast else rest
  if start.isPrefixOf name.toList && !digits.isEmpty then digits.mapM Text.digitValue else none

def version (digits : List Nat) : Except Text.NumeralError Nat :=
  if Text.digitLimit < digits.length then .error (.tooLong (some digits.length))
  else .ok (Text.ofDigits 10 digits)

def nextVersion (slug : List Char) (used : List String) : Except Text.NumeralError Nat := do
  let versions ← (used.filterMap (versionDigits? slug)).mapM version
  return versions.foldl max 0 + 1

def pickStyleName (style : String) (used : List String) : Except Text.NumeralError String := do
  let numeral ← Text.numeral? (← nextVersion (styleSlug style) used)
  return String.ofList (styleSlug style) ++ "-v" ++ numeral

def flowPath (scope name : String) : String :=
  s!"f/workflows/{scope}/" ++ String.ofList (Text.slug '_' name)

end Flowplan.Signature
