/-!
# Splitting texts

A text as the list of its parts between the occurrences of a character.
-/

namespace ServiceDiscovery

/-- The parts of a text between the occurrences of `separator`; there is one
    more of them than there are separators. -/
def splitAtChar (separator : Char) : List Char → List (List Char)
  | [] => [[]]
  | c :: cs =>
    match splitAtChar separator cs with
    | [] => [[c]]
    | part :: parts => if c = separator then [] :: part :: parts else (c :: part) :: parts

end ServiceDiscovery
