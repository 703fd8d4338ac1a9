import TwistyCube.Six
import TwistyCube.Face
import TwistyCube.Side
import TwistyCube.Grid
import TwistyCube.Text.Words
import TwistyCube.Text.Quoted
import TwistyCube.Orientation
import TwistyCube.Notation.Letter
import TwistyCube.Notation.Move
import TwistyCube.Cube
import TwistyCube.Primitive
import TwistyCube.Notation.Table
import TwistyCube.Execution
import TwistyCube.Scramble
import TwistyCube.Scramble.WordSource
import TwistyCube.StickerText
import TwistyCube.Picture
import TwistyCube.Proofs.Steps
import TwistyCube.Proofs.Trace
import TwistyCube.Proofs.Duration
import TwistyCube.Proofs.Motion
import TwistyCube.Proofs.Space
import TwistyCube.Proofs.Undo
import TwistyCube.Proofs.Reading
import TwistyCube.Proofs.Records
import TwistyCube.Proofs.Pieces
import TwistyCube.Proofs.Conservation
import TwistyCube.Proofs.Reachable
import TwistyCube.Proofs.Faithful
import TwistyCube.Proofs.Meaning
import TwistyCube.Proofs.Layers
import TwistyCube.Proofs.Renaming
import TwistyCube.Proofs.Handedness
import TwistyCube.Proofs.Solved
import TwistyCube.Proofs.Writing
import TwistyCube.Proofs.Loading
import TwistyCube.Proofs.Drawing
import TwistyCube.Proofs.Recolouring
import TwistyCube.Proofs.Replay
import TwistyCube.Proofs.Counting
import TwistyCube.Proofs.Supply
import TwistyCube.Proofs.Uniform
import TwistyCube.Proofs.Queue
