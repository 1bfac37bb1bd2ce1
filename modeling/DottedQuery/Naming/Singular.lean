/-
# DottedQuery.Naming.Singular -- singulars of English nouns

The singular of a table's name, by a list of words without one, a list of irregular words
and a list of endings. An ending is looked for at the end of the word, and the first that
fits decides; what stands before the part that an ending keeps is dropped.
-/
import DottedQuery.Text.Alphanumeric

namespace DottedQuery.Naming

/-! ## Words -/

/-- Words that are their own singular. -/
def uncountable : List String :=
  ["accommodation", "adulthood", "advertising", "advice", "aggression", "aid", "air",
   "aircraft", "alcohol", "anger", "applause", "arithmetic", "assistance", "athletics",
   "bacon", "baggage", "beef", "biology", "blood", "botany", "bread", "butter", "carbon",
   "cardboard", "cash", "chalk", "chaos", "chess", "crossroads", "countryside", "dancing",
   "deer", "dignity", "dirt", "dust", "economics", "education", "electricity",
   "engineering", "enjoyment", "envy", "equipment", "ethics", "evidence", "evolution",
   "fame", "fiction", "flour", "flu", "food", "fuel", "fun", "furniture", "gallows",
   "garbage", "garlic", "genetics", "gold", "golf", "gossip", "grammar", "gratitude",
   "grief", "guilt", "gymnastics", "happiness", "hardware", "harm", "hate", "hatred",
   "health", "heat", "help", "homework", "honesty", "honey", "hospitality", "housework",
   "humour", "hunger", "hydrogen", "ice", "importance", "inflation", "information",
   "innocence", "iron", "irony", "jam", "jewelry", "judo", "karate", "knowledge", "lack",
   "laughter", "lava", "leather", "leisure", "lightning", "linguine", "linguini",
   "linguistics", "literature", "litter", "livestock", "logic", "loneliness", "luck",
   "luggage", "macaroni", "machinery", "magic", "management", "mankind", "marble",
   "mathematics", "mayonnaise", "measles", "methane", "milk", "money", "mud", "music",
   "mumps", "nature", "news", "nitrogen", "nonsense", "nurture", "nutrition", "obedience",
   "obesity", "oxygen", "pasta", "patience", "physics", "poetry", "pollution", "poverty",
   "pride", "psychology", "publicity", "punctuation", "quartz", "racism", "relaxation",
   "reliability", "research", "respect", "revenge", "rice", "rubbish", "rum", "safety",
   "scenery", "seafood", "seaside", "series", "shame", "sheep", "shopping", "sleep",
   "smoke", "smoking", "snow", "soap", "software", "soil", "spaghetti", "species", "steam",
   "stuff", "stupidity", "sunshine", "symmetry", "tennis", "thirst", "thunder", "timber",
   "traffic", "transportation", "trust", "underwear", "unemployment", "unity", "validity",
   "veal", "vegetation", "vegetarianism", "vengeance", "violence", "vitality", "warmth",
   "wealth", "weather", "welfare", "wheat", "wildlife", "wisdom", "yoga", "zinc", "zoology"]

/-- Words whose singular follows no rule. -/
def irregular : List (String × String) :=
  [("oxen", "ox"), ("boxes", "box"), ("men", "man"), ("women", "woman"), ("dice", "die"),
   ("yeses", "yes"), ("feet", "foot"), ("eaves", "eave"), ("geese", "goose"),
   ("teeth", "tooth"), ("quizzes", "quiz")]

/-! ## Endings -/

/-- What stands between the stem and the ending proper. -/
inductive Link where
  /-- One of these letter groups. -/
  | oneOf (groups : List String)
  /-- One character that is none of these. -/
  | noneOf (letters : String)

/-- A rule for an ending. -/
inductive Ending where
  /-- A fixed beginning of the ending is kept and gets a new end. With `whole` the rule
  wants the word to consist of the ending only. -/
  | fixed (whole : Bool) (kept ends : List String) (newEnd : String)
  /-- The word's stem is kept, with the link if `keepLink`, and gets a new end. -/
  | stem (links : List Link) (ending : String) (keepLink : Bool) (newEnd : String)
  /-- A word that begins so is reduced to what is kept of that beginning. -/
  | opening (start kept : String)

/-- The text before a suffix, if the text ends in it. -/
def before? (suffix : String) (s : List Char) : Option (List Char) :=
  let suffix := suffix.toList
  if suffix.isSuffixOf s then some (s.take (s.length - suffix.length)) else none

/-- The word characters at the end of a text. -/
def lastWord (s : List Char) : List Char := (s.reverse.takeWhile Text.isWordChar).reverse

/-- The text before a link at the end of a text, and the link. -/
def Link.split? (s : List Char) : Link → Option (List Char × List Char)
  | oneOf groups =>
    groups.findSome? fun group => (before? group s).map fun rest => (rest, group.toList)
  | noneOf letters => do
    let c ← s.getLast?
    if letters.toList.contains c then none else return (s.dropLast, [c])

/-- What is kept of a word with its new end. A dollar sign at the end of what is kept makes a
placeholder of the letters after it, and as nothing fills it, both are dropped. -/
def withNewEnd (kept newEnd : List Char) : List Char :=
  if kept.getLast? = some '$' && !newEnd.isEmpty then kept.dropLast else kept ++ newEnd

/-- What a rule makes of a word, if its ending fits. -/
def Ending.singular? (word : List Char) : Ending → Option (List Char)
  | fixed whole kept ends newEnd =>
    kept.findSome? fun k => ends.findSome? fun e => do
      let rest ← before? (k ++ e) word
      if whole && !rest.isEmpty then none else return k.toList ++ newEnd.toList
  | stem links ending keepLink newEnd => do
    let rest ← before? ending word
    let (rest, link) ← links.findSome? (Link.split? rest)
    return withNewEnd (lastWord rest ++ (if keepLink then link else [])) newEnd.toList
  | opening start kept => if start.toList.isPrefixOf word then some kept.toList else none

/-- The rules in the order in which they are tried. -/
def endings : List Ending :=
  [.fixed false ["database"] ["s"] "",
   .fixed false ["quiz"] ["zes"] "",
   .fixed false ["matr"] ["ices"] "ix",
   .fixed false ["vert", "ind"] ["ices"] "ex",
   .opening "oxen" "ox",
   .fixed false ["alias", "status"] ["es", ""] "",
   .fixed false ["octop", "vir"] ["us", "i"] "us",
   .fixed true ["a"] ["xis", "xes"] "xis",
   .fixed false ["cris", "test"] ["is", "es"] "is",
   .fixed false ["shoe"] ["s"] "",
   .fixed false ["bus"] ["es", ""] "",
   .fixed false ["m", "l"] ["ice"] "ouse",
   .stem [.oneOf ["x", "ch", "ss", "sh"]] "es" true "",
   .fixed false ["m"] ["ovies"] "ovie",
   .fixed false ["s"] ["eries"] "eries",
   .stem [.noneOf "aeiouy", .oneOf ["qu"]] "ies" true "y",
   .stem [.oneOf ["l", "r"]] "ves" false "f",
   .stem [.oneOf ["tive"]] "s" false "",
   .stem [.oneOf ["hive"]] "s" false "",
   .stem [.noneOf "f"] "ves" false "fe",
   .fixed true ["analy"] ["sis", "ses"] "sis",
   .fixed false ["analy", "ba", "diagno", "parenthe", "progno", "synop", "the"]
     ["sis", "ses"] "sis",
   .stem [.oneOf ["t", "i"]] "a" false "um",
   .stem [.oneOf ["o"]] "es" false "",
   .fixed false ["n"] ["ews"] "ews",
   .stem [.oneOf ["ss"]] "" true "",
   .stem [.oneOf [""]] "s" false ""]

/-- The singular of a noun. -/
def singular (word : String) : String :=
  if uncountable.contains word then word
  else
    match irregular.lookup word with
    | some single => single
    | none =>
      match endings.findSome? (Ending.singular? word.toList) with
      | some single => String.ofList single
      | none => word

end DottedQuery.Naming
