import ComputeHorde.Builtins
import ComputeHorde.Chain.Data
import ComputeHorde.Chain.Prog
import ComputeHorde.Chain.SuperTensor
import ComputeHorde.Cache.InMemory
import ComputeHorde.Precache.Precaching
import ComputeHorde.Precache.Producer
import ComputeHorde.Precache.World
import ComputeHorde.Cache.Django
import ComputeHorde.Precache.Sound
import ComputeHorde.Precache.Transparency
import ComputeHorde.Precache.TaskLoss
import ComputeHorde.Precache.Requests
import ComputeHorde.Receipts.Pages
import ComputeHorde.Receipts.Transfer
import ComputeHorde.Receipts.Gather
import ComputeHorde.Upload.Retry
import ComputeHorde.Upload.Semaphore
import ComputeHorde.Upload.Path
import ComputeHorde.Upload.Multi
import ComputeHorde.Upload.Coroutine
import ComputeHorde.Upload.Zip
import ComputeHorde.OrganicJobs.MinerDriver
import ComputeHorde.OrganicJobs.Outcomes
