import ScriptRunner.Text.Table

/-!
# Joining letters

In some scripts letters are joined to their neighbours. A letter may be joined to the one in front
of it, to the one behind it, or to both; other characters are passed over.
-/

namespace ScriptRunner.Text

/-- How characters are joined: to both sides (`D`), to what is behind them (`L`), to what is in
front of them (`R`), or not at all, but so that those around them may be (`T`). -/
def joinings : Table := .ofWords 0x80 "
  280N 71T 112N 8T 106N 2dT N T N 2T N 2T N 9T 40N bT 5N D N 4R D R D R 5D 4R dD N 7D R 2D 15T eN
  2D T 3R 5N fD 12R 26D R 2D 9R D R D R 2D 2R N R 8T N 6T 2N 2T N 4T 2R aN 3D 2N D 10N R T 3D 5R
  4D R 9D R D R D R 2D R 1dT R bD 3R fD 2R 4D R D 2R 3D 2R 6D 26N bT 19N 21D 9T 9N T 18N 4T N 9T N
  3T N 7T 10N R 5D 2R D R aD R D 3R 5T 2N D N 4D N R D 1aR 3N D 2N 5D R 8D 9T aD 3R N R 2D 2R 6D R
  fD N 39T 37N T N T 4N 8T 4N T 3N fT 2N 2T 1dN T 3aN T 4N 6T 6N T 14N 4T 18N 5T 39N 2T 3N 1bT 14N
  2T 3N T bN 2T 39N T 4N 8T 4N 3T 12N 4T 14N 8T 3aN T 2N T N 6T 6N aT bN 4T 1cN T 3dN T cN 3T 30N
  T 3N T 37N T N 3T 5N 12T aN 4T 1bN T 3aN T 2N T 6N T 5N 9T dN 4T 1aN 2T 39N 2T 4N 5T 7N T 14N 4T
  1bN T 48N 5T 3N 6T 59N T 2N bT 8N 8T 62N T 2N 9T bN 8T 48N 2T 1bN T N T N T 37N eT N 5T N 2T 5N
  31T 8N T 66N 4T N 6T N 2T 2N 2T 19N 2T 4N 3T 10N 4T dN T 2N 2T 6N T fN T 2bfN 3T 3b2N 3T 1dN 2T
  1eN eT 12N eT 37N 7T 8N T 2N bT 9N 3T 27N D 18N 60D 5N 2T 22D T 6D 70N 3T 4N 2T 9N T 6N 7T d7N
  2T 2N 3T 38N T N 9T N T 2N 8T 6N dT 30N 54T 30N T N 5T N T 5N T 28N 9T cN 2T 20N 4T 2N 2T N 3T
  38N T N 2T 3N T N 3T 3aN 8T 2N 5T 95N 3T N dT N 7T 4N T 6N T 3N 2T c6N 41T 2cfN 34T bebN 4T 8cN
  T 60N 20T 22aN 4T 6bN 4T 75d2N 4T N aT 20N 2T 50N 2T 110N T 3N T 4N T 19N 2T 5N 4T 10N 32D L 51N
  aT 12N 12T dN T 26N 8T 19N bT 2eN 3T 30N T 2N 4T 2N 2T 27N T 43N 6T 2N 2T 2N bT 3N T 8N T 2fN T
  33N T N 3T 2N 2T 5N 2T N T 2aN 2T 8N bT e4N T 2N T 4N 3T 4f2eN 94T 26eN 25T 3b8N 83T 60N T 95N
  aT 681N fT 28N 8T 80N 5D R N R N 2R 2N L 5R 4D L 5D R 3D R 2N R 6T 4D R 90N D R D 3R 3D R 2D R D
  2R D 8R 10N 4R 2D 151N L 21D R D cT 39N 5T 13dN 2T 15N R 2D N aD 2aN 6T 30N 3D R 11D N bT 3D R
  1bN 4D 2R cD 4T 2aN D N 2D 3R N D 2R 2D R 2D N D 2R D 4N R D 15L 21N T 36N fT 29N T 2N 2T aN 3T
  31N 4T 2N 2T 7N eT 30N 3T 24N 5T N 9T 3dN T cN 2T 34N 9T aN 4T 2N T 5fN 3T 2N T N 2T 6N T 2N 3fT
  5fN T 3N dT 10N 2T 39N 2T 3N T 25N 1aT 3bN 7T cN T N T N T eN 1fT 38N 8T 2N 3T N T 17N T 54N 6T
  N T 4N 2T N 2T eeN 6T 4N 2T N 2T 1bN 24T 33N 8T 2N T N 2T 6aN T N T 2N 6T N T 65N T N T 2N 4T N
  9T ffN 9T N 2T 100N 2T N T 4N T 90N 8T 4N T 20N aT 28N 6T 2N 4T 8N 9T N 6T 2N 3T 2eN dT N 2T c6N
  T N 3T N T c9N eT N T 52N 17T N 7T N 2T N 4bT 31N 15T N 9T 40N 3T 2N T N T 15bN 2T bN 2T 34N 8T
  2N T N T 17N 56T 1490N T 6N 19T 2cbeN cT 3N 3T 9c0N 5T 3bN 7T 418N T 3fN 4T 51N cT 4cadN 2T
  1261N 50T 217N 3T 11N 8T 2N 7T 1eN 4T 94N 3T 7bbN 37T 4N 32T 8N T eN T 16N 465T 100N 100T 30N 7T
  177N 12T 2cN 4T 1fcN 4T feN 2T f3N T 2N T 7N 2T 5N 9T 1d2N 52T 22D cT"

/-- Whether a character is passed over. -/
def isTransparent (c : Char) : Bool := joinings.property c 'N' == 'T'

/-- Whether a letter may be joined to the one behind it. -/
def joinsForward (c : Char) : Bool := ['D', 'L'].contains (joinings.property c 'N')

/-- Whether a letter may be joined to the one in front of it. -/
def joinsBackward (c : Char) : Bool := ['D', 'R'].contains (joinings.property c 'N')

end ScriptRunner.Text
