/-! # Placeholder vocabularies

Each vocabulary has an opening, said once, and words that follow it again and again.
-/

namespace Shorthand.Lorem

structure Vocabulary where
  opening : List String
  words : List String

def latin : Vocabulary where
  opening := ["lorem", "ipsum", "dolor", "sit", "amet"]
  words := [
    "consectetur", "adipisicing", "elit", "sed", "do", "eiusmod", "tempor", "incididunt", "ut",
    "labore", "et", "dolore", "magna", "aliqua", "enim", "ad", "minim", "veniam", "quis",
    "nostrud", "exercitation", "ullamco", "laboris", "nisi", "aliquip", "ex", "ea", "commodo",
    "consequat", "duis", "aute", "irure", "in", "reprehenderit", "voluptate", "velit", "esse",
    "cillum", "fugiat", "nulla", "pariatur", "excepteur", "sint", "occaecat", "cupidatat", "non",
    "proident", "sunt", "culpa", "qui", "officia", "deserunt", "mollit", "anim", "id", "est",
    "laborum"]

def russian : Vocabulary where
  opening := ["далеко-далеко", "за", "словесными", "горами"]
  words := [
    "в", "стране", "гласных", "и", "согласных", "живут", "рыбные", "тексты", "вдали", "от", "всех",
    "они", "буквенных", "домах", "на", "берегу", "семантика", "большого", "языкового", "океана",
    "маленький", "ручеек", "даль", "журчит", "по", "всей", "обеспечивает", "ее", "всеми",
    "необходимыми", "правилами", "эта", "парадигматическая", "страна", "которой", "жаренные",
    "предложения", "залетают", "прямо", "рот"]

def spanish : Vocabulary where
  opening := ["mujer", "uno", "dolor", "más", "de", "poder", "mismo", "si"]
  words := [
    "ejercicio", "preferencia", "perspicacia", "laboral", "paño", "suntuoso", "molde", "namibia",
    "planeador", "mirar", "demás", "oficinista", "excepción", "odio", "consecuencia", "casi",
    "auto", "chicharra", "velo", "elixir", "ataque", "no", "odio", "temporal", "cuórum",
    "dignísimo", "facilismo", "letra", "nihilista", "expedición", "alma", "alveolar", "aparte",
    "león", "animal", "como", "paria", "belleza", "modo", "natividad"]

def vocabulary? : String → Option Vocabulary
  | "latin" => some latin
  | "ru" => some russian
  | "sp" => some spanish
  | _ => none

/-- The opening, then the words over and over. -/
def Vocabulary.word (v : Vocabulary) (i : Nat) : String :=
  if h : i < v.opening.length then v.opening[i]
  else v.words.getD ((i - v.opening.length) % v.words.length) ""

end Shorthand.Lorem
