import Transmon.Client.Backend
import Transmon.Client.Sampler
import Transmon.Main
import Transmon.Proofs.Angles
import Transmon.Proofs.Bearer
import Transmon.Proofs.Bits
import Transmon.Proofs.Builder
import Transmon.Proofs.Colouring
import Transmon.Proofs.Cut
import Transmon.Proofs.Decoupling
import Transmon.Proofs.Difference
import Transmon.Proofs.Feedback
import Transmon.Proofs.Finishing
import Transmon.Proofs.GreedyCut
import Transmon.Proofs.Hamiltonian
import Transmon.Proofs.IndependentSet
import Transmon.Proofs.Labelling
import Transmon.Proofs.Moments
import Transmon.Proofs.Move.Naming
import Transmon.Proofs.Percentile
import Transmon.Proofs.Playlist
import Transmon.Proofs.Readout
import Transmon.Proofs.Rectangle
import Transmon.Proofs.Rounds
import Transmon.Proofs.Route
import Transmon.Proofs.Sandwich
import Transmon.Proofs.Shortcuts
import Transmon.Proofs.Target
import Transmon.Proofs.Timebox
import Transmon.Proofs.Tuning
import Transmon.Proofs.Unitary
import Transmon.Remote.Server
import Transmon.Request.Circuit
import Transmon.Request.Client
import Transmon.Request.Data
import Transmon.Request.Routing
import Transmon.Request.Session
import Transmon.Request.Settings
