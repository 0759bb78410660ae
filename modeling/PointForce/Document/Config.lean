import PointForce.Document.Reader
import PointForce.Error

namespace PointForce

-- What is wrong with the text comes before what is wrong with the values.
def Config.ofDocument (text : List Char) : Except Error (Config Float) :=
  match Document.read text with
  | .error e => .error (.parse e)
  | .ok c    =>
    match c.fault? with
    | some fault => .error (.invalidConfig fault)
    | none       => .ok c

theorem Config.valid_of_ofDocument {text : List Char} {c : Config Float}
    (h : Config.ofDocument text = .ok c) : c.Valid := by
  unfold ofDocument at h
  split at h
  case h_1 => simp at h
  case h_2 =>
    split at h
    case h_1 => simp at h
    case h_2 hf =>
      cases h
      exact fault?_eq_none_iff.mp hf

end PointForce
