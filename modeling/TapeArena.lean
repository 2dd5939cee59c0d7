import TapeArena.Exercise.File
import TapeArena.Population
import TapeArena.Proofs.Accesses
import TapeArena.Proofs.Accounts
import TapeArena.Proofs.Actions
import TapeArena.Proofs.Atomicity
import TapeArena.Proofs.Batches
import TapeArena.Proofs.Channels
import TapeArena.Proofs.CodeUnits
import TapeArena.Proofs.Comments
import TapeArena.Proofs.Consultations
import TapeArena.Proofs.Distances
import TapeArena.Proofs.Echo
import TapeArena.Proofs.Endings
import TapeArena.Proofs.Enlargement
import TapeArena.Proofs.Generosity
import TapeArena.Proofs.Grammar
import TapeArena.Proofs.Histories
import TapeArena.Proofs.Inputs
import TapeArena.Proofs.Insertions
import TapeArena.Proofs.Landings
import TapeArena.Proofs.Leftovers
import TapeArena.Proofs.Numerals
import TapeArena.Proofs.Obstacles
import TapeArena.Proofs.Omission
import TapeArena.Proofs.Overrides
import TapeArena.Proofs.Partners
import TapeArena.Proofs.Perfection
import TapeArena.Proofs.Population
import TapeArena.Proofs.Ranks
import TapeArena.Proofs.Rejections
import TapeArena.Proofs.Repetitions
import TapeArena.Proofs.Reuse
import TapeArena.Proofs.Rotation
import TapeArena.Proofs.Shapes
import TapeArena.Proofs.Sinks
import TapeArena.Proofs.SmallLetters
import TapeArena.Proofs.Spellings
import TapeArena.Proofs.Traversals
import TapeArena.Proofs.Trials
import TapeArena.Proofs.Variables
import TapeArena.Proofs.Walk
import TapeArena.Score
import TapeArena.Tree
import TapeArena.Version
